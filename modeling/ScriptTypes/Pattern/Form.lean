import ScriptTypes.Pattern.Expr

/-!
What a pattern matches, with flags and spellings settled. Forms are built by `concat`,
`alternation`, `repeated` and `ofSet`, which bring them into a simplified shape: sequences and
alternatives are flat, neighbouring literals are one, alternatives of single characters, or of
sets, are one set, and what all alternatives begin with is taken out of them.
-/

namespace ScriptTypes.Pattern

open ScriptTypes.Unicode (CharSet)

inductive Look where
  | textStart
  | textEnd
  | lineStart
  | lineEnd
  /-- Line ends are a line feed, a carriage return, or both in that pair. -/
  | crlfLineStart
  | crlfLineEnd
  | word (place : WordEdge) (unicode : Bool)
  deriving DecidableEq

/-- What a set is made of, which is bytes where Unicode is switched off. A set of bytes and a set of
characters are different forms, even if they have the same members. -/
inductive Alphabet where
  | characters
  | bytes
  deriving DecidableEq

inductive Form where
  | empty
  | literal (text : List Char)
  | chars (alphabet : Alphabet) (set : CharSet)
  | look (kind : Look)
  | repetition (low : Nat) (high : Option Nat) (greedy : Bool) (body : Form)
  | capture (index : Nat) (name : Option String) (body : Form)
  | seq (first rest : Form)
  | alt (first rest : Form)
  deriving DecidableEq, Inhabited

namespace Form

def fail : Form := .chars .bytes .empty

def parts : Form → List Form
  | seq first rest => first :: rest.parts
  | f => [f]

def branches : Form → List Form
  | alt first rest => first :: rest.branches
  | f => [f]

def isBlank : Form → Bool
  | empty => true
  | literal text => text.isEmpty
  | chars _ _ => false
  | look _ => true
  | repetition _ high _ body => high.isSome && body.isBlank
  | capture _ _ body => body.isBlank
  | seq first rest => first.isBlank && rest.isBlank
  | alt first rest => first.isBlank && rest.isBlank

/-- The least length of a text that the form matches; none if a part can match nothing. -/
def minLength : Form → Option Nat
  | empty => some 0
  | literal text => some text.length
  | chars _ set => if set.ranges.isEmpty then none else some 1
  | look _ => some 0
  | repetition low _ _ body => body.minLength.map (low * ·)
  | capture _ _ body => body.minLength
  | seq first rest => do return (← first.minLength) + (← rest.minLength)
  | alt first rest => do return min (← first.minLength) (← rest.minLength)

def consumes (f : Form) : Bool := f.minLength.any (0 < ·)

def ofSet (alphabet : Alphabet) (set : CharSet) : Form :=
  if set.ranges.isEmpty then .fail
  else
    match set.single? with
    | some c => .literal [c]
    | none => .chars alphabet set

/-- A repetition of a form that matches the empty text only is at most one copy; no copy is the
empty form and one copy is the form itself. -/
def repeated (low : Nat) (high : Option Nat) (greedy : Bool) (body : Form) : Form :=
  let (low, high) := if body.isBlank then (min low 1, some ((high.map (min · 1)).getD 1)) else (low, high)
  if low = 0 && high = some 0 then .empty
  else if low = 1 && high = some 1 then body
  else .repetition low high greedy body

def joinLiterals : List Form → List Form
  | [] => []
  | empty :: rest => joinLiterals rest
  | literal text :: rest =>
    match joinLiterals rest with
    | literal more :: rest => literal (text ++ more) :: rest
    | rest => literal text :: rest
  | f :: rest => f :: joinLiterals rest

def seqOf : List Form → Form
  | [] => .empty
  | [f] => f
  | f :: rest => .seq f (seqOf rest)

def concat (forms : List Form) : Form := seqOf (joinLiterals (forms.flatMap parts))

def altOf : List Form → Form
  | [] => .fail
  | [f] => f
  | f :: rest => .alt f (altOf rest)

def isLiteral : Form → Bool
  | literal _ => true
  | _ => false

def asSet? : Form → Option CharSet
  | chars _ set => some set
  | literal [c] => some (.singleton c)
  | _ => none

def unionSet? (known : CharSet) : List Form → Option CharSet
  | [] => some known
  | f :: rest => do unionSet? (known.union (← f.asSet?)) rest

/-- The set that alternatives become if all of them are characters or all of them are sets. Where
both kinds occur the alternatives stay as they are. -/
def mergedSet? (forms : List Form) : Option CharSet :=
  if forms.all isLiteral || !forms.any isLiteral then unionSet? .empty forms else none

def commonLength : List Form → List Form → Nat
  | f :: fs, g :: gs => if f = g then commonLength fs gs + 1 else 0
  | _, _ => 0

def sharedLength : List (List Form) → Nat
  | [] => 0
  | first :: others =>
    if first.length < 2 || others.any (·.length < 2) then 0
    else others.foldl (fun n other => min n (commonLength first other)) first.length

/-- Alternatives are flattened. Single characters become a set of characters, and so do sets; else,
if all alternatives are sequences with a common beginning, that comes first and the alternatives are
what is left. -/
def alternationOf (fuel : Nat) (forms : List Form) : Form :=
  match forms.flatMap branches with
  | [] => .fail
  | [f] => f
  | all =>
    match mergedSet? all with
    | some set => ofSet .characters set
    | none =>
      let shared := sharedLength (all.map parts)
      match fuel, shared with
      | fuel + 1, n + 1 =>
        let common := ((all.head?.map parts).getD []).take (n + 1)
        let rests := all.map fun f => concat (f.parts.drop (n + 1))
        concat (common ++ [alternationOf fuel rests])
      | _, _ => altOf all

def size : Form → Nat
  | repetition _ _ _ body => body.size + 1
  | capture _ _ body => body.size + 1
  | seq first rest => first.size + rest.size + 1
  | alt first rest => first.size + rest.size + 1
  | _ => 1

def alternation (forms : List Form) : Form :=
  alternationOf (forms.foldr (fun f n => f.size + n) 1) forms

def captures : Form → List (Nat × Option String)
  | repetition _ _ _ body => body.captures
  | capture index name body => (index, name) :: body.captures
  | seq first rest => first.captures ++ rest.captures
  | alt first rest => first.captures ++ rest.captures
  | _ => []

end Form

end ScriptTypes.Pattern
