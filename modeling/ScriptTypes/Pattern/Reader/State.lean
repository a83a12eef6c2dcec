import ScriptTypes.Pattern.Fault
import ScriptTypes.Pattern.Reader.Spelling
import ScriptTypes.Text.Blank

namespace ScriptTypes.Pattern

open ScriptTypes.Text

/-- A sequence under construction, last part first. -/
structure Sequence where
  start : Position
  parts : List Expr

structure Branches where
  start : Position
  done : List Expr

structure Frame where
  opening : Span
  kind : GroupKind
  outer : Sequence
  outerBranches : Option Branches
  outerSpaced : Bool

structure Members where
  span : Span
  items : List ClassSet

inductive ClassLayer where
  | bracket (span : Span) (negated : Bool) (outer : Members)
  | pending (operator : SetOperator) (lhs : ClassSet)

/-- Where an escape stands: in a sequence, as a class member or start of a range, or as the end
of the range that starts with an item. -/
inductive Place where
  | sequence
  | member
  | rangeEnd (first : Atom)

inductive Opening where
  | bracket
  | caret
  | dashes
  | bracketLiteral
  deriving DecidableEq

structure Decimal where
  start : Option Position := none
  digits : List Char := []
  stop : Option Position := none

inductive CountPhase where
  | low (number : Decimal)
  | comma (low : Except Fault Nat)
  | high (low : Nat) (number : Decimal)

/-- What settles whether a dash in a class is a range: nothing yet, nothing yet but a comment has
begun, or the answer. -/
inductive DashVerdict where
  | open
  | openInComment
  | range
  | literal
  deriving DecidableEq

structure FlagItem where
  span : Span
  /-- A flag, or the negation of those that follow. -/
  flag : Option Flag

inductive Mode where
  | sequence
  | quantifier (low : Nat) (high : Option Nat) (target : Expr)
  | count (start : Position) (target : Expr) (phase : CountPhase)
  | counted (start : Position) (low : Nat) (high : Option Nat) (target : Expr)
  | groupOpen (opening : Span)
  | groupMark (opening : Span) (inner : Position)
  | groupLetter (letter : Span) (opening : Span)
  | groupAngle (opening : Span)
  | groupName (opening : Span) (start : Position) (name : List Char)
  | groupFlags (opening : Span) (inner : Position) (items : List FlagItem)
  | escape (start : Position) (place : Place)
  | wordEdge (start : Position) (place : Place)
  | wordEdgeOpen (start brace : Position) (place : Place)
  | wordEdgeName (start brace content : Position) (name : List Char) (place : Place)
  | hexOpen (start : Position) (width : HexWidth) (place : Place)
  | hexDigits (start digits : Position) (width : HexWidth) (read : List Char) (place : Place)
  | hexEnd (start digits : Position) (width : HexWidth) (read : List Char) (place : Place)
  | hexBrace (start brace : Position) (read : List Char) (place : Place)
  | hexBraceEnd (start brace digits stop : Position) (read : List Char) (place : Place)
  | propertyOpen (start : Position) (negated : Bool) (place : Place)
  | propertyName (start : Position) (negated : Bool) (name : List Char) (place : Place)
  | propertyLetter (start : Position) (negated : Bool) (letter : Char) (place : Place)
  | classOpen (start : Position) (opening : Opening) (negated : Bool) (members : Members)
  | member
  | memberEnd (item : Atom)
  | dash (item : Atom) (place : Position) (adjacent : Bool) (verdict : DashVerdict)
  | doubled (c : Char) (place : Position)
  | asciiClass (left : Nat) (item : ClassSet)

structure Reader where
  position : Position
  mode : Mode
  /-- White space and comments are passed over. -/
  spaced : Bool
  inComment : Bool
  sequence : Sequence
  branches : Option Branches
  frames : List Frame
  /-- The open brackets and waiting operators, innermost first. -/
  layers : List ClassLayer
  members : Members
  captures : Nat
  names : List (String × Span)

def Reader.initial : Reader where
  position := .first
  mode := .sequence
  spaced := false
  inComment := false
  sequence := ⟨.first, []⟩
  branches := none
  frames := []
  layers := []
  members := ⟨.empty .first, []⟩
  captures := 0
  names := []

def Mode.passesBlanks : Mode → Bool
  | sequence => true
  | count _ _ _ => true
  | counted _ _ _ _ => true
  | groupOpen _ => true
  | wordEdgeOpen _ _ _ => true
  | wordEdgeName _ _ _ _ _ => true
  | hexOpen _ _ _ => true
  | hexDigits _ _ _ _ _ => true
  | hexEnd _ _ _ _ _ => true
  | hexBrace _ _ _ _ => true
  | hexBraceEnd _ _ _ _ _ _ => true
  | propertyOpen _ _ _ => true
  | propertyName _ _ _ _ => true
  | propertyLetter _ _ _ _ => true
  | classOpen _ _ _ _ => true
  | member => true
  | memberEnd _ => true
  | dash _ _ _ _ => true
  | _ => false

def Sequence.push (s : Sequence) (e : Expr) : Sequence := { s with parts := e :: s.parts }

def Sequence.close (s : Sequence) (stop : Position) : Expr :=
  match s.parts with
  | [] => .empty ⟨s.start, stop⟩
  | [e] => e
  | parts => .concat ⟨s.start, stop⟩ parts.reverse

def closeLevel (branches : Option Branches) (last : Sequence) (stop : Position) : Expr :=
  match branches with
  | none => last.close stop
  | some b => .alternation ⟨b.start, stop⟩ (last.close stop :: b.done).reverse

def Members.push (m : Members) (item : ClassSet) : Members :=
  let start := if m.items.isEmpty then item.span.start else m.span.start
  ⟨⟨start, item.span.stop⟩, item :: m.items⟩

def Members.close (m : Members) : ClassSet :=
  match m.items with
  | [] => .empty m.span
  | [item] => item
  | items => .union m.span items.reverse

def applyPending (rhs : ClassSet) : List ClassLayer → ClassSet × List ClassLayer
  | .pending operator lhs :: layers =>
    (.operation (.cover lhs.span rhs.span) operator lhs rhs, layers)
  | layers => (rhs, layers)

def Atom.asMember : Atom → Except Fault ClassSet
  | literal l => .ok (.literal l)
  | shorthand s kind negated => .ok (.shorthand s kind negated)
  | property s query negated => .ok (.property s query negated)
  | a => .error ⟨.classEscapeInvalid, a.span, none⟩

def Atom.asRangeEnd : Atom → Except Fault Literal
  | literal l => .ok l
  | a => .error ⟨.classRangeLiteral, a.span, none⟩

def rangeOf (first last : Atom) : Except Fault ClassSet := do
  let low ← first.asRangeEnd
  let high ← last.asRangeEnd
  let span := Span.cover first.span last.span
  if high.char < low.char then throw ⟨.classRangeInvalid, span, none⟩
  return .range span low high

def greatestCount : Nat := 4294967295

def Decimal.close (d : Decimal) (here : Position) : Except Fault Nat :=
  let span : Span := ⟨d.start.getD here, d.stop.getD here⟩
  if d.digits.isEmpty then .error ⟨.repetitionCountEmpty, span, none⟩
  else
    let n := d.digits.foldr (fun c n => 10 * n + (c.toNat - 48)) 0
    if n ≤ greatestCount then .ok n else .error ⟨.decimalInvalid, span, none⟩

def Decimal.take? (d : Decimal) (here : Position) (c : Char) : Option Decimal :=
  if isBlank c then
    some (if d.digits.isEmpty then d else { d with stop := some (d.stop.getD here) })
  else if c.isDigit && d.stop.isNone then
    some { d with start := some (d.start.getD here), digits := c :: d.digits }
  else none

namespace Reader

def fail (cause : Cause) (span : Span) : Except Fault Reader := .error ⟨cause, span, none⟩

def here (r : Reader) : Span := .empty r.position

def become (r : Reader) (c : Char) (mode : Mode) : Reader :=
  { r with position := r.position.after c, mode }

def pass (r : Reader) (c : Char) : Reader := { r with position := r.position.after c }

def push (r : Reader) (e : Expr) : Reader :=
  { r with sequence := r.sequence.push e, mode := .sequence }

def pushMember (r : Reader) (item : ClassSet) : Reader :=
  { r with members := r.members.push item, mode := .member }

/-- The report on a class that is not closed points to the innermost open bracket. -/
def classUnclosed (r : Reader) : Fault :=
  let bracket? : ClassLayer → Option Span
    | .bracket span _ _ => some span
    | .pending _ _ => none
  ⟨.classUnclosed, (r.layers.findSome? bracket?).getD r.here, none⟩

def deliver (r : Reader) (place : Place) (item : Atom) : Except Fault Reader :=
  match place with
  | .sequence => .ok (r.push (.atom item))
  | .member => .ok { r with mode := .memberEnd item }
  | .rangeEnd first => return r.pushMember (← rangeOf first item)

def takeTarget (r : Reader) : Except Fault (Expr × Reader) :=
  match r.sequence.parts with
  | e :: parts =>
    if e.isRepeatable then .ok (e, { r with sequence := { r.sequence with parts } })
    else .error ⟨.repetitionMissing, r.here, none⟩
  | [] => .error ⟨.repetitionMissing, r.here, none⟩

def pushRepetition (r : Reader) (low : Nat) (high : Option Nat) (greedy : Bool) (target : Expr) :
    Reader :=
  r.push (.repetition ⟨target.span.start, r.position⟩ low high greedy target)

def pushCounted (r : Reader) (start : Position) (low : Nat) (high : Option Nat) (greedy : Bool)
    (target : Expr) : Except Fault Reader :=
  if high.any (· < low) then fail .repetitionRangeInvalid ⟨start, r.position⟩
  else .ok (r.pushRepetition low high greedy target)

def openGroup (r : Reader) (opening : Span) (kind : GroupKind) : Reader :=
  let frame : Frame := ⟨opening, kind, r.sequence, r.branches, r.spaced⟩
  let spaced :=
    match kind with
    | .plain changes => (changes.lookup .spaced).getD r.spaced
    | .capture _ _ => r.spaced
  { r with
    mode := .sequence, frames := frame :: r.frames, sequence := ⟨r.position, []⟩, branches := none,
    spaced }

def openCapture (r : Reader) (opening : Span) (name : Option String) : Reader :=
  { r with captures := r.captures + 1 }.openGroup opening (.capture (r.captures + 1) name)

def closeGroup (r : Reader) (c : Char) : Except Fault Reader :=
  match r.frames with
  | [] => fail .groupUnopened (.char r.position c)
  | frame :: frames =>
    let body := closeLevel r.branches r.sequence r.position
    let group := Expr.group ⟨frame.opening.start, r.position.after c⟩ frame.kind body
    .ok { r with
      position := r.position.after c, mode := .sequence, frames,
      sequence := frame.outer.push group, branches := frame.outerBranches,
      spaced := frame.outerSpaced }

def closeBranch (r : Reader) (c : Char) : Reader :=
  let branch := r.sequence.close r.position
  let branches : Branches :=
    match r.branches with
    | none => ⟨r.sequence.start, [branch]⟩
    | some b => { b with done := branch :: b.done }
  { r with
    position := r.position.after c, branches := some branches,
    sequence := ⟨r.position.after c, []⟩ }

def pushOperator (r : Reader) (c : Char) (operator : SetOperator) : Reader :=
  let (lhs, layers) := applyPending r.members.close r.layers
  { r with
    position := r.position.after c, mode := .member, layers := .pending operator lhs :: layers,
    members := ⟨.empty (r.position.after c), []⟩ }

def closeOpening (r : Reader) (start : Position) (negated : Bool) (members : Members) : Reader :=
  { r with
    mode := .member, layers := .bracket ⟨start, r.position⟩ negated r.members :: r.layers,
    members }

def closeClass (r : Reader) (c : Char) : Reader :=
  let (body, layers) := applyPending r.members.close r.layers
  match layers with
  | .bracket span negated outer :: layers =>
    let stop := r.position.after c
    let r := { r with position := stop, layers }
    if layers.isEmpty then r.push (.bracketed ⟨span.start, stop⟩ negated body)
    else { r with members := outer, mode := .member }.pushMember
      (.bracketed ⟨span.start, stop⟩ negated body)
  | _ => r

end Reader

end ScriptTypes.Pattern
