import ScriptTypes.Pattern.Form
import ScriptTypes.Unicode.Word
import Std.Data.HashSet

/-!
Where a form matches. From one place in a text a form can end at several; `run` lists the ways,
the preferred one first, and a search takes the first way from the first place that has one.

Two ways that end at one place differ only in their groups, and what follows cannot tell them
apart, so only the preferred one is kept. A loop over a body that may match the empty text needs
more care: a way must not come twice to the same choice without taking a character in between.
Inside such loops a way records the choices made since the last character.
-/

namespace ScriptTypes.Pattern

structure Cursor where
  offset : Nat
  before : Option Char
  rest : List Char
  deriving DecidableEq

def Cursor.ofText (text : List Char) : Cursor := ⟨0, none, text⟩

def Cursor.next? (c : Cursor) : Option Cursor :=
  match c.rest with
  | [] => none
  | x :: rest => some ⟨c.offset + x.utf8Size, some x, rest⟩

structure Extent where
  start : Nat
  stop : Nat
  deriving DecidableEq, Inhabited

/-- A way through a text: where it has come to, the extents of the groups that took part, latest
first, and inside loops that may turn without a character, the choices made since the last one. -/
structure Way where
  cursor : Cursor
  groups : List (Nat × Extent) := []
  choices : Option (List Nat) := none

namespace Way

def key (w : Way) : Nat × Option (List Nat) := (w.cursor.offset, w.choices)

def distinct (ways : List Way) : List Way := keep [] ways
where
  keep (seen : List (Nat × Option (List Nat))) : List Way → List Way
    | [] => []
    | w :: rest => if seen.contains w.key then keep seen rest else w :: keep (w.key :: seen) rest

def take? (w : Way) (test : Char → Bool) : Option Way :=
  match w.cursor.rest with
  | [] => none
  | x :: rest =>
    if test x then
      some { w with
        cursor := ⟨w.cursor.offset + x.utf8Size, some x, rest⟩, choices := w.choices.map fun _ => [] }
    else none

def takeText? (w : Way) : List Char → Option Way
  | [] => some w
  | x :: text => (w.take? (· = x)).bind (takeText? · text)

/-- Comes to a choice, unless the way has come to it before and taken no character since. -/
def choose? (w : Way) (choice : Nat) : Option Way :=
  match w.choices with
  | none => some w
  | some made => if made.contains choice then none else some { w with choices := some (choice :: made) }

def record (w : Way) : Way := { w with choices := some (w.choices.getD []) }

def close (w : Way) (index start : Nat) : Way :=
  { w with groups := (index, ⟨start, w.cursor.offset⟩) :: w.groups }

end Way

namespace Look

def isWordAt (unicode : Bool) (c : Option Char) : Bool :=
  match c with
  | none => false
  | some c => if unicode then Unicode.isWord c else Unicode.isAsciiWord c

def holds (l : Look) (c : Cursor) : Bool :=
  let after := c.rest.head?
  match l with
  | textStart => c.before.isNone
  | textEnd => after.isNone
  | lineStart => c.before.isNone || c.before = some '\n'
  | lineEnd => after.isNone || after = some '\n'
  | crlfLineStart =>
    c.before.isNone || c.before = some '\n' || (c.before = some '\r' && after ≠ some '\n')
  | crlfLineEnd =>
    after.isNone || after = some '\r' || (after = some '\n' && c.before ≠ some '\r')
  | word place unicode =>
    let before := isWordAt unicode c.before
    let after := isWordAt unicode after
    match place with
    | .edge => before != after
    | .inside => before == after
    | .start => !before && after
    | .stop => before && !after
    | .startHalf => !before
    | .stopHalf => !after

end Look

structure Found where
  met : Std.HashSet (Nat × Nat × Option (List Nat))
  ways : List Way

namespace Found

def none : Found := ⟨∅, []⟩

def add (f : Found) (w : Way) : Found := { f with ways := w :: f.ways }

/-- Comes to the choice of a loop between another turn and leaving. `turn` number `n` of the loop
stands at choice `choice n`; a choice that a way has met before with the same future is passed
over. -/
def loop (body : Nat → Way → List Way) (choice : Nat → Nat) (greedy : Bool) :
    (fuel : Nat) → (unbounded : Bool) → (turn : Nat) → Found → Way → Found
  | 0, _, _, found, w => found.add w
  | fuel + 1, unbounded, turn, found, w =>
    match w.choose? (choice turn) with
    | Option.none => found
    | some w =>
      if found.met.contains (turn, w.key) then found
      else
        let found := { found with met := found.met.insert (turn, w.key) }
        let again (found : Found) : Found :=
          (body turn w).foldl
            (loop body choice greedy fuel unbounded (if unbounded then turn else turn + 1)) found
        if greedy then (again found).add w else again (found.add w)

end Found

namespace Form

def choiceCount : Form → Nat
  | repetition low high _ body =>
    match high with
    | none => (max low 1) * body.choiceCount + 2
    | some high => high * (body.choiceCount + 1)
  | capture _ _ body => body.choiceCount
  | seq first rest => first.choiceCount + rest.choiceCount
  | alt first rest => first.choiceCount + rest.choiceCount + 1
  | _ => 0

def copies (body : Nat → List Way → List Way) (turn : Nat) : Nat → List Way → List Way
  | 0, ways => ways
  | n + 1, ways => if ways.isEmpty then [] else copies body (turn + 1) n (body turn ways)

/-- The ways through a repetition from the ways to it. Copy number `n` of the body goes from ways
to ways by `body n`; the choices of the repetition itself are numbered from `base`. -/
def runRepetition (low : Nat) (high : Option Nat) (greedy consumes : Bool)
    (body : Nat → List Way → List Way) (base : Nat) (ways : List Way) : List Way :=
  let single (turn : Nat) (w : Way) : List Way := body turn [w]
  match high with
  | some high =>
    let spare := high - low
    Way.distinct <| (copies body 0 low ways).flatMap fun w =>
      (Found.loop (fun turn => single (low + turn)) (base + ·) greedy spare false 0 .none w).ways.reverse
  | none =>
    let fuel (w : Way) : Nat := w.cursor.rest.length + 2
    let turns (last : Nat) (w : Way) : List Way :=
      (Found.loop (fun _ => single last) (fun _ => base) greedy (fuel w) true 0 .none w).ways.reverse
    if consumes && low = 0 then Way.distinct (ways.flatMap (turns 0))
    else
      let recorded (w : Way) : Way := if consumes then w else w.record
      let last := low - 1
      let plus (w : Way) : List Way :=
        let found :=
          (single last w).foldl
            (Found.loop (fun _ => single last) (fun _ => base) greedy (fuel w) true 0) .none
        found.ways.reverse
      let loopFrom (w : Way) : List Way :=
        let w' := recorded w
        let through :=
          if low = 0 then
            match w'.choose? (base + 1) with
            | none => []
            | some w' => if greedy then plus w' ++ [w'] else w' :: plus w'
          else plus w'
        through.map fun out => if w.choices.isNone then { out with choices := none } else out
      Way.distinct ((copies body 0 last ways).flatMap loopFrom)

/-- The ways through a form from the ways to it, each way's in order of preference and after those
of the ways before it. Choices are numbered from `base`. -/
def run (base : Nat) : Form → List Way → List Way
  | empty, ways => ways
  | literal text, ways => ways.filterMap (·.takeText? text)
  | chars _ set, ways => ways.filterMap (·.take? set.contains)
  | look kind, ways => ways.filter fun w => kind.holds w.cursor
  | capture index _ body, ways =>
    Way.distinct <| ways.flatMap fun w =>
      (body.run base [w]).map (·.close index w.cursor.offset)
  | seq first rest, ways => rest.run (base + first.choiceCount) (first.run base ways)
  | alt first rest, ways =>
    Way.distinct <| ways.flatMap fun w =>
      match w.choose? base with
      | none => []
      | some w => first.run (base + 1) [w] ++ rest.run (base + 1 + first.choiceCount) [w]
  | repetition low high greedy body, ways =>
    let count := body.choiceCount
    let own := match high with
      | none => 2
      | some high => high
    runRepetition low high greedy body.consumes
      (fun turn ways => body.run (base + own + turn * count) ways) base ways

end Form

structure Match where
  extent : Extent
  groups : List (Nat × Extent)
  deriving DecidableEq

namespace Match

def group? (m : Match) (index : Nat) : Option Extent :=
  if index = 0 then some m.extent else m.groups.lookup index

def isEmpty (m : Match) : Bool := m.extent.start = m.extent.stop

end Match

namespace Form

def matchAt? (f : Form) (c : Cursor) : Option (Match × Cursor) :=
  (f.run 0 [{ cursor := c }]).head?.map fun w =>
    (⟨⟨c.offset, w.cursor.offset⟩, w.groups⟩, w.cursor)

def findFrom? (f : Form) (offset : Nat) (before : Option Char) :
    List Char → Option (Match × Cursor)
  | [] => f.matchAt? ⟨offset, before, []⟩
  | x :: rest =>
    match f.matchAt? ⟨offset, before, x :: rest⟩ with
    | some found => some found
    | none => f.findFrom? (offset + x.utf8Size) (some x) rest

def find? (f : Form) (c : Cursor) : Option (Match × Cursor) :=
  f.findFrom? c.offset c.before c.rest

def firstMatch? (f : Form) (text : List Char) : Option Match :=
  (f.find? (.ofText text)).map (·.1)

/-- The matches of a text in turn, each searched for from the end of the one before. An empty
match at that end is passed over for the next one behind it. -/
def matchesFrom (f : Form) : (fuel : Nat) → (last : Option Nat) → Cursor → List Match
  | 0, _, _ => []
  | fuel + 1, last, c =>
    match f.find? c with
    | none => []
    | some (m, stop) =>
      if m.isEmpty && last = some m.extent.stop then
        match c.next? with
        | none => []
        | some c => f.matchesFrom fuel last c
      else m :: f.matchesFrom fuel (some m.extent.stop) stop

def allMatches (f : Form) (text : List Char) : List Match :=
  f.matchesFrom (2 * text.length + 2) none (.ofText text)

end Form

end ScriptTypes.Pattern
