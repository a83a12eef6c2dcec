import ScriptTypes.Pattern.Form

/-!
How large the automaton of a form is. A pattern whose automaton takes more than the limit is
refused, whether it is read forward, with capture groups, or backward, without them. Nothing is
built: a repetition weighs as many copies of its body as it stands for.
-/

namespace ScriptTypes.Pattern

open ScriptTypes.Unicode (CharSet)

def weightLimit : Nat := 10485760

def stateWeight : Nat := 32
def transitionWeight : Nat := 8
def choiceWeight : Nat := 4

abbrev ByteRanges := List (Nat × Nat)

/-- The byte sequences for the values from `lo` to `hi`, whose last `trailing` bytes have six bits
each; the first byte carries the marker `lead`. -/
def byteRanges (lead : Nat) : (trailing lo hi : Nat) → List ByteRanges
  | 0, lo, hi => [[(lead + lo, lead + hi)]]
  | k + 1, lo, hi =>
    let unit := Nat.pow 64 (k + 1)
    let first := lo / unit
    let last := hi / unit
    let inside (head low high : Nat) : List ByteRanges :=
      (byteRanges 0x80 k low high).map ((lead + head, lead + head) :: ·)
    if first = last then inside first (lo % unit) (hi % unit)
    else
      let cutLow := lo % unit ≠ 0
      let cutHigh := hi % unit ≠ unit - 1
      let low := if cutLow then inside first (lo % unit) (unit - 1) else []
      let high := if cutHigh then inside last 0 (hi % unit) else []
      let lower := if cutLow then first + 1 else first
      let upper := if cutHigh then last else last + 1
      let middle : List ByteRanges :=
        if lower < upper then
          [(lead + lower, lead + upper - 1) :: List.replicate (k + 1) (0x80, 0xbf)]
        else []
      low ++ middle ++ high

/-- The code points that take one to four bytes, without the surrogates: lower and upper end,
marker of the first byte, bytes behind it. -/
def encodingLengths : List (Nat × Nat × Nat × Nat) :=
  [(0, 0x7f, 0, 0), (0x80, 0x7ff, 0xc0, 1), (0x800, 0xd7ff, 0xe0, 2), (0xe000, 0xffff, 0xe0, 2),
    (0x10000, 0x10ffff, 0xf0, 3)]

def encodings (set : CharSet) : List ByteRanges :=
  set.ranges.flatMap fun r =>
    encodingLengths.flatMap fun (lo, hi, lead, trailing) =>
      let lo := max lo r.1
      let hi := min hi r.2
      if lo ≤ hi then byteRanges lead trailing lo hi else []

def gather : List ByteRanges → List ((Nat × Nat) × List ByteRanges)
  | [] => []
  | [] :: rest => gather rest
  | (b :: tail) :: rest =>
    match gather rest with
    | (b', tails) :: groups =>
      if b = b' then (b, tail :: tails) :: groups else (b, [tail]) :: (b', tails) :: groups
    | [] => [(b, [tail])]

def readers : (fuel : Nat) → List ByteRanges → List (List ByteRanges)
  | 0, _ => []
  | fuel + 1, sequences =>
    match gather sequences with
    | [] => []
    | groups => sequences :: groups.flatMap fun g => readers fuel g.2

def withoutRepeats (states : List (List ByteRanges)) : List (List ByteRanges) :=
  states.foldl (fun kept s => if kept.contains s then kept else s :: kept) []

def total (weights : List Nat) : Nat := weights.foldr (· + ·) 0

def forwardSetWeight (set : CharSet) : Nat :=
  let states := withoutRepeats (readers 5 (encodings set))
  stateWeight + total (states.map fun s => stateWeight + transitionWeight * (gather s).length)

def backwardSetWeight (set : CharSet) : Nat :=
  let sequences := encodings set
  let begun := sequences.flatMap fun s => (List.range s.length).map fun n => [s.take (n + 1)]
  2 * stateWeight + choiceWeight * sequences.length + stateWeight * (withoutRepeats begun).length

def roughSetWeight (set : CharSet) : Nat :=
  2 * stateWeight + total ((encodings set).map fun s =>
    choiceWeight + (stateWeight + transitionWeight) * s.length)

def endedOnce : List (List UInt8) → List (List UInt8)
  | [] :: rest => [] :: rest.dropWhile List.isEmpty
  | texts => texts

def sections : List (List UInt8) → List (List (List UInt8))
  | [] => [[]]
  | [] :: rest => [] :: sections rest
  | text :: rest =>
    match sections rest with
    | first :: more => (text :: first) :: more
    | [] => [[text]]

def addTail (b : UInt8) (tail : List UInt8) :
    List (UInt8 × List (List UInt8)) → List (UInt8 × List (List UInt8))
  | [] => [(b, [tail])]
  | (c, tails) :: rest =>
    if b = c then (c, tail :: tails) :: rest else (c, tails) :: addTail b tail rest

def fans : List (List UInt8) → List (UInt8 × List (List UInt8))
  | [] => []
  | [] :: rest => fans rest
  | (b :: tail) :: rest => addTail b tail (fans rest)

def sectionWeight (follow : List (List UInt8) → Nat) (texts : List (List UInt8)) : Nat :=
  match fans texts with
  | [] => 0
  | [only] => choiceWeight + stateWeight + follow only.2
  | several =>
    choiceWeight + stateWeight + transitionWeight * several.length +
      total (several.map fun fan => follow fan.2)

/-- The states of alternative texts, which share what they begin with. A text that ends where others
go on is a choice there, and the texts before it do not share with those behind it. -/
def treeWeight : (fuel : Nat) → List (List UInt8) → Nat
  | 0, _ => 0
  | fuel + 1, texts =>
    if texts.all List.isEmpty then 0
    else
      let parts := sections (endedOnce texts)
      stateWeight + choiceWeight * (parts.length - 1) +
        total (parts.map (sectionWeight (treeWeight fuel)))

def textsWeight (texts : List (List UInt8)) : Nat :=
  stateWeight + treeWeight (texts.foldl (fun n text => max n text.length) 0) texts

def roughTextsWeight (texts : List (List UInt8)) : Nat :=
  2 * stateWeight + total (texts.map fun text =>
    choiceWeight + (choiceWeight + 2 * stateWeight + transitionWeight) * text.length)

/-- How sets, alternative texts and capture groups weigh in one reading, and whether a form is held
to the end of the text where the reading starts, so that no start is searched for. -/
structure Reading where
  set : CharSet → Nat
  texts : List (List UInt8) → Nat
  capture : Nat
  anchored : Form → Bool

namespace Form

def beginsWith (kind : Look) : Form → Bool
  | look own => own = kind
  | repetition low _ _ body => 0 < low && body.beginsWith kind
  | capture _ _ body => body.beginsWith kind
  | seq first rest => first.beginsWith kind || (first.isBlank && rest.beginsWith kind)
  | alt first rest => first.beginsWith kind && rest.beginsWith kind
  | _ => false

def endsWith (kind : Look) : Form → Bool
  | look own => own = kind
  | repetition low _ _ body => 0 < low && body.endsWith kind
  | capture _ _ body => body.endsWith kind
  | seq first rest => rest.endsWith kind || (rest.isBlank && first.endsWith kind)
  | alt first rest => first.endsWith kind && rest.endsWith kind
  | _ => false

end Form

def Reading.forward : Reading where
  set := forwardSetWeight
  texts := textsWeight
  capture := 2 * stateWeight
  anchored := Form.beginsWith .textStart

def Reading.backward : Reading where
  set := backwardSetWeight
  texts := fun texts => textsWeight (texts.map List.reverse)
  capture := 0
  anchored := Form.endsWith .textEnd

def Reading.rough : Reading where
  set := roughSetWeight
  texts := roughTextsWeight
  capture := 2 * stateWeight
  anchored := fun _ => false

namespace Form

def setWeight (reading : Reading) (set : CharSet) : Nat :=
  if set.isAscii then 2 * stateWeight + transitionWeight * set.ranges.length
  else reading.set set

def forkWeight : Nat := stateWeight + 2 * choiceWeight

def branchTexts? : List Form → Option (List (List UInt8))
  | [] => some []
  | literal text :: rest => (branchTexts? rest).map (text.flatMap String.utf8EncodeChar :: ·)
  | _ :: _ => none

/-- The bytes that the states of a form take. Alternatives are weighed together: `later` says that
the form is what is left of them behind the first. -/
def weight (reading : Reading) (later : Bool) : Form → Nat
  | empty => stateWeight
  | literal text => max stateWeight (stateWeight * total (text.map Char.utf8Size))
  | chars _ set => setWeight reading set
  | look _ => stateWeight
  | repetition low high _ body =>
    let copy := body.weight reading false
    match low, high with
    | 0, none =>
      if body.consumes then copy + forkWeight else copy + 2 * forkWeight + stateWeight
    | low, none => low * copy + forkWeight
    | low, some high =>
      if low = 0 && high = 1 then copy + forkWeight + stateWeight
      else if low = high then low * copy
      else max stateWeight (low * copy) + stateWeight + (high - low) * (copy + forkWeight)
  | capture _ _ body => body.weight reading false + reading.capture
  | seq first rest => first.weight reading false + rest.weight reading false
  | alt first rest =>
    match if later then none else branchTexts? (first :: rest.branches) with
    | some texts => reading.texts texts
    | none =>
      first.weight reading false + rest.weight reading true + choiceWeight +
        match rest with
        | alt _ _ => 0
        | _ => 2 * stateWeight + choiceWeight

def frameWeight (reading : Reading) (f : Form) : Nat :=
  let search :=
    if reading.anchored f then stateWeight else forkWeight + 2 * stateWeight + transitionWeight
  stateWeight + reading.capture + search

/-- Whether the automata of a form stay within the limit. Most forms are far below it, which the rough
bound shows without the work of sharing states. -/
def fits (f : Form) : Bool :=
  let within (reading : Reading) : Bool :=
    f.weight reading false + frameWeight reading f ≤ weightLimit
  within .rough || (within .forward && within .backward)

end Form

end ScriptTypes.Pattern
