import ScriptTypes.Proofs.Pattern.Settling
import ScriptTypes.Proofs.Pattern.Places

namespace ScriptTypes.Pattern

open ScriptTypes.Text

def Sequence.unplaced (s : Sequence) : Sequence := ⟨.first, s.parts.map Expr.unplaced⟩

def Branches.unplaced (b : Branches) : Branches := ⟨.first, b.done.map Expr.unplaced⟩

def Frame.unplaced (f : Frame) : Frame where
  opening := nowhere
  kind := f.kind
  outer := f.outer.unplaced
  outerBranches := f.outerBranches.map Branches.unplaced
  outerSpaced := f.outerSpaced

def Members.unplaced (m : Members) : Members := ⟨nowhere, m.items.map ClassSet.unplaced⟩

def ClassLayer.unplaced : ClassLayer → ClassLayer
  | bracket _ negated outer => .bracket nowhere negated outer.unplaced
  | pending operator lhs => .pending operator lhs.unplaced

def Place.unplaced : Place → Place
  | sequence => .sequence
  | member => .member
  | rangeEnd first => .rangeEnd first.unplaced

def Decimal.unplaced (d : Decimal) : Decimal :=
  { d with start := none, stop := d.stop.map fun _ => .first }

def CountPhase.unplaced : CountPhase → CountPhase
  | low number => .low number.unplaced
  | comma (.ok n) => .comma (.ok n)
  | comma (.error _) => .comma (.error ⟨.decimalInvalid, nowhere, none⟩)
  | high n number => .high n number.unplaced

def FlagItem.unplaced (item : FlagItem) : FlagItem := { item with span := nowhere }

def Mode.unplaced : Mode → Mode
  | sequence => .sequence
  | quantifier low high target => .quantifier low high target.unplaced
  | count _ target phase => .count .first target.unplaced phase.unplaced
  | counted _ low high target => .counted .first low high target.unplaced
  | groupOpen _ => .groupOpen nowhere
  | groupMark _ _ => .groupMark nowhere .first
  | groupLetter _ _ => .groupLetter nowhere nowhere
  | groupAngle _ => .groupAngle nowhere
  | groupName _ _ name => .groupName nowhere .first name
  | groupFlags _ _ items => .groupFlags nowhere .first (items.map FlagItem.unplaced)
  | escape _ place => .escape .first place.unplaced
  | wordEdge _ place => .wordEdge .first place.unplaced
  | wordEdgeOpen _ _ place => .wordEdgeOpen .first .first place.unplaced
  | wordEdgeName _ _ _ name place => .wordEdgeName .first .first .first name place.unplaced
  | hexOpen _ width place => .hexOpen .first width place.unplaced
  | hexDigits _ _ width read place => .hexDigits .first .first width read place.unplaced
  | hexEnd _ _ width read place => .hexEnd .first .first width read place.unplaced
  | hexBrace _ _ read place => .hexBrace .first .first read place.unplaced
  | hexBraceEnd _ _ _ _ read place => .hexBraceEnd .first .first .first .first read place.unplaced
  | propertyOpen _ negated place => .propertyOpen .first negated place.unplaced
  | propertyName _ negated name place => .propertyName .first negated name place.unplaced
  | propertyLetter _ negated letter place => .propertyLetter .first negated letter place.unplaced
  | classOpen _ opening negated members => .classOpen .first opening negated members.unplaced
  | member => .member
  | memberEnd item => .memberEnd item.unplaced
  | dash item _ adjacent verdict => .dash item.unplaced .first adjacent verdict
  | doubled c _ => .doubled c .first
  | asciiClass left item => .asciiClass left item.unplaced

def Reader.unplaced (r : Reader) : Reader where
  position := .first
  mode := r.mode.unplaced
  spaced := r.spaced
  inComment := r.inComment
  sequence := r.sequence.unplaced
  branches := r.branches.map Branches.unplaced
  frames := r.frames.map Frame.unplaced
  layers := r.layers.map ClassLayer.unplaced
  members := r.members.unplaced
  captures := r.captures
  names := r.names.map fun n => (n.1, nowhere)

@[simp] theorem Place.unplaced_unplaced (p : Place) : p.unplaced.unplaced = p.unplaced := by
  cases p <;> simp [Place.unplaced]

@[simp] theorem Sequence.unplaced_push (s : Sequence) (e : Expr) :
    (s.push e).unplaced = s.unplaced.push e.unplaced := rfl

@[simp] theorem Sequence.unplaced_unplaced (s : Sequence) : s.unplaced.unplaced = s.unplaced := by
  simp [Sequence.unplaced]

theorem Sequence.unplaced_close (s : Sequence) (stop moved : Position) :
    (s.close stop).unplaced = (s.unplaced.close moved).unplaced := by
  obtain ⟨start, parts⟩ := s
  match parts with
  | [] => rfl
  | [e] => simp [Sequence.close, Sequence.unplaced]
  | _ :: _ :: _ => simp [Sequence.close, Sequence.unplaced, Expr.unplaced, Expr.allUnplaced_eq]

@[simp] theorem Branches.unplaced_unplaced (b : Branches) : b.unplaced.unplaced = b.unplaced := by
  simp [Branches.unplaced]

@[simp] theorem Frame.unplaced_unplaced (f : Frame) : f.unplaced.unplaced = f.unplaced := by
  simp [Frame.unplaced, Function.comp_def]

@[simp] theorem Members.unplaced_unplaced (m : Members) : m.unplaced.unplaced = m.unplaced := by
  simp [Members.unplaced]

@[simp] theorem ClassLayer.unplaced_pending (operator : SetOperator) (lhs : ClassSet) :
    (pending operator lhs).unplaced = .pending operator lhs.unplaced := rfl

@[simp] theorem ClassLayer.unplaced_unplaced (l : ClassLayer) : l.unplaced.unplaced = l.unplaced := by
  cases l <;> simp [ClassLayer.unplaced]

@[simp] theorem CountPhase.unplaced_unplaced (p : CountPhase) :
    p.unplaced.unplaced = p.unplaced := by
  cases p with
  | low number => simp [CountPhase.unplaced, Decimal.unplaced, Function.comp_def]
  | comma n => cases n <;> rfl
  | high n number => simp [CountPhase.unplaced, Decimal.unplaced, Function.comp_def]

@[simp] theorem Mode.unplaced_unplaced (m : Mode) : m.unplaced.unplaced = m.unplaced := by
  cases m <;> simp [Mode.unplaced, FlagItem.unplaced, Function.comp_def]

theorem closeLevel_unplaced (branches : Option Branches) (s : Sequence)
    (stop moved : Position) :
    (closeLevel branches s stop).unplaced =
      (closeLevel (branches.map Branches.unplaced) s.unplaced moved).unplaced := by
  have last := s.unplaced_close stop moved
  cases branches with
  | none => exact last
  | some b => simp [closeLevel, Branches.unplaced, Expr.unplaced, Expr.allUnplaced_eq, last]

theorem Members.unplaced_push (m : Members) (item : ClassSet) :
    (m.push item).unplaced = m.unplaced.push item.unplaced := by
  simp [Members.push, Members.unplaced]

theorem Members.unplaced_close (m : Members) : m.close.unplaced = m.unplaced.close := by
  obtain ⟨span, items⟩ := m
  match items with
  | [] => rfl
  | [e] => simp [Members.close, Members.unplaced]
  | _ :: _ :: _ =>
      simp [Members.close, Members.unplaced, ClassSet.unplaced, ClassSet.allUnplaced_eq]

namespace Reader

variable {r s : Reader} {c : Char} {rest : List Char}

def seen (x : Except Fault Reader) : Option Reader := x.toOption.map Reader.unplaced

@[simp] theorem seen_ok (r : Reader) : seen (.ok r) = some r.unplaced := rfl

theorem seen_bind {α : Type} (x : Except Fault α) (g : α → Except Fault Reader) :
    seen (x >>= g) = x.toOption.bind fun a => seen (g a) := by
  cases x <;> rfl

@[simp] theorem unplaced_unplaced (r : Reader) : r.unplaced.unplaced = r.unplaced := by
  simp [unplaced, Function.comp_def]

def Alike (r s : Reader) : Prop := r.unplaced = s.unplaced

theorem alike_unplaced (r : Reader) : Alike r.unplaced r := r.unplaced_unplaced

namespace Alike

variable (alike : Alike r s)
include alike

theorem symm : Alike s r := Eq.symm alike

theorem spaced : r.spaced = s.spaced :=
  (congrArg Reader.spaced alike : r.unplaced.spaced = s.unplaced.spaced)

theorem captures : r.captures = s.captures :=
  (congrArg Reader.captures alike : r.unplaced.captures = s.unplaced.captures)

theorem mode : r.mode.unplaced = s.mode.unplaced :=
  (congrArg Reader.mode alike : r.unplaced.mode = s.unplaced.mode)

theorem pass (c : Char) : Alike (r.pass c) (s.pass c) := alike

theorem enter {mode other : Mode} (same : mode.unplaced = other.unplaced) :
    Alike { r with mode } { s with mode := other } := by
  simp only [Alike, unplaced, Reader.mk.injEq, same] at alike ⊢
  simp only [alike, and_self]

theorem become {mode other : Mode} (same : mode.unplaced = other.unplaced) (c : Char) :
    Alike (r.become c mode) (s.become c other) := alike.enter same

theorem push {e other : Expr} (same : e.unplaced = other.unplaced) :
    Alike (r.push e) (s.push other) := by
  have pushed : ∀ t : Reader, (t.push e).unplaced = t.unplaced.push e.unplaced := fun _ => rfl
  have pushed_other : (s.push other).unplaced = s.unplaced.push other.unplaced := rfl
  rw [Alike, pushed, pushed_other, alike, same]

theorem pushRepetition {target other : Expr} (same : target.unplaced = other.unplaced) (low : Nat)
    (high : Option Nat) (greedy : Bool) :
    Alike (r.pushRepetition low high greedy target) (s.pushRepetition low high greedy other) :=
  alike.push (by simp only [Expr.unplaced, same])

theorem pushMember {item other : ClassSet} (same : item.unplaced = other.unplaced) :
    Alike (r.pushMember item) (s.pushMember other) := by
  simp only [Alike, unplaced, Reader.mk.injEq, Reader.pushMember, Members.unplaced_push,
    same] at alike ⊢
  simp only [alike, and_self]

theorem openClass :
    Alike { r with layers := [], members := ⟨r.here, []⟩ }
      { s with layers := [], members := ⟨s.here, []⟩ } := by
  simp only [Alike, unplaced, Reader.mk.injEq] at alike ⊢
  simp [alike, Members.unplaced]

theorem openGroup (opening place : Span) (kind : GroupKind) :
    Alike (r.openGroup opening kind) (s.openGroup place kind) := by
  simp only [Alike, unplaced, Reader.mk.injEq] at alike
  obtain ⟨-, -, spaced, awake, sequence, branches, frames, layers, members, captures, names⟩ := alike
  simp only [Alike, unplaced, Reader.mk.injEq, Reader.openGroup, List.map_cons, Frame.unplaced,
    spaced, awake, sequence, branches, frames, layers, members, captures, names]
  simp [Sequence.unplaced]

theorem openCapture (opening place : Span) (name : Option String) :
    Alike (r.openCapture opening name) (s.openCapture place name) := by
  have captures : r.captures = s.captures := alike.captures
  have counted : Alike { r with captures := r.captures + 1 } { s with captures := s.captures + 1 } := by
    simp only [Alike, unplaced, Reader.mk.injEq] at alike ⊢
    simp only [alike, and_self]
  rw [Reader.openCapture, Reader.openCapture, captures]
  rw [captures] at counted
  exact counted.openGroup opening place (.capture (s.captures + 1) name)

end Alike

/-- What does not look at places takes outcomes that are alike to outcomes that are alike. -/
theorem seen_congr {x y : Except Fault Reader} (same : seen x = seen y)
    {g : Reader → Except Fault Reader} (blind : ∀ r s, Alike r s → seen (g r) = seen (g s)) :
    seen (x >>= g) = seen (y >>= g) := by
  cases x with
  | error fault =>
      cases y with
      | error other => rfl
      | ok s => cases same
  | ok r =>
      cases y with
      | error other => cases same
      | ok s => exact blind r s (Option.some.inj same)

theorem exists_alike {x y : Except Fault Reader} (same : seen x = seen y) (outcome : x = .ok r) :
    ∃ s, y = .ok s ∧ Alike r s := by
  subst outcome
  cases y with
  | error fault => cases same
  | ok s => exact ⟨s, rfl, Option.some.inj same⟩

theorem seen_pass (x : Except Fault Reader) (c : Char) :
    seen (do return (← x).pass c) = seen x := by
  cases x <;> rfl

theorem closeBranch_unplaced (r : Reader) (c : Char) :
    Alike (r.unplaced.closeBranch c) (r.closeBranch c) := by
  have branch := Sequence.unplaced_close r.sequence r.position .first
  cases branches : r.branches <;>
    simp [Alike, unplaced, closeBranch, branches, branch, Branches.unplaced, Sequence.unplaced,
      Function.comp_def]

theorem closeGroup_unplaced (r : Reader) (c : Char) :
    seen (r.unplaced.closeGroup c) = seen (r.closeGroup c) := by
  simp only [closeGroup, unplaced]
  cases r.frames with
  | nil => rfl
  | cons frame frames =>
      have body := closeLevel_unplaced r.branches r.sequence r.position .first
      simp [unplaced, Mode.unplaced, Expr.unplaced, body, Frame.unplaced, Function.comp_def]

theorem takeTarget_unplaced (r : Reader) :
    r.unplaced.takeTarget.toOption =
      r.takeTarget.toOption.map fun t => (t.1.unplaced, t.2.unplaced) := by
  simp only [takeTarget, unplaced, Sequence.unplaced]
  cases r.sequence.parts with
  | nil => rfl
  | cons e parts =>
      simp only [List.map_cons, Expr.isRepeatable_unplaced]
      split <;> rfl

theorem seen_takeTarget {g h : Expr × Reader → Except Fault Reader}
    (blind : ∀ target taken, seen (g (target.unplaced, taken.unplaced)) = seen (h (target, taken))) :
    seen (r.unplaced.takeTarget >>= g) = seen (r.takeTarget >>= h) := by
  simp only [seen_bind, takeTarget_unplaced, Option.bind_map, Function.comp_def, blind]

theorem SequenceStep.unplaced {step : Reader → Except Fault Reader} (shape : SequenceStep c step)
    (r : Reader) : seen (step r.unplaced) = seen (step r) := by
  have alike := r.alike_unplaced
  cases shape with
  | opens => exact congrArg some (alike.become rfl c)
  | closes => exact closeGroup_unplaced r c
  | bar => exact congrArg some (closeBranch_unplaced r c)
  | bracket => exact congrArg some (alike.openClass.become rfl c)
  | quantifier low high =>
      refine seen_takeTarget fun target taken => congrArg some ?_
      exact taken.alike_unplaced.become (by simp [Mode.unplaced]) c
  | brace =>
      refine seen_takeTarget fun target taken => congrArg some ?_
      exact taken.alike_unplaced.become (by simp [Mode.unplaced]) c
  | escape => exact congrArg some (alike.become rfl c)
  | item make blind =>
      have same : (Expr.atom (make .first)).unplaced = (Expr.atom (make r.position)).unplaced := by
        simp only [Expr.unplaced, blind _ r.position]
      exact congrArg some (alike.push same)

theorem stepSequence_unplaced (r : Reader) (c : Char) :
    seen (r.unplaced.stepSequence c) = seen (r.stepSequence c) :=
  (sequenceStep c).unplaced r

theorem applyPending_unplaced (rhs : ClassSet) (layers : List ClassLayer) :
    applyPending rhs.unplaced (layers.map ClassLayer.unplaced) =
      ((applyPending rhs layers).1.unplaced, (applyPending rhs layers).2.map ClassLayer.unplaced) := by
  match layers with
  | [] => rfl
  | .bracket _ _ _ :: _ => rfl
  | .pending _ _ :: _ =>
      simp [applyPending, ClassLayer.unplaced, ClassSet.unplaced, Span.cover]

theorem closeClass_unplaced (r : Reader) (c : Char) :
    Alike (r.unplaced.closeClass c) (r.closeClass c) := by
  have pending := applyPending_unplaced r.members.close r.layers
  rw [Members.unplaced_close] at pending
  have members : r.unplaced.members = r.members.unplaced := rfl
  have layers : r.unplaced.layers = r.layers.map ClassLayer.unplaced := rfl
  simp only [closeClass, members, layers, pending]
  match (applyPending r.members.close r.layers).2 with
  | [] => exact r.alike_unplaced
  | .pending _ _ :: _ => exact r.alike_unplaced
  | .bracket span negated outer :: inner =>
      simp only [List.map_cons, ClassLayer.unplaced, List.isEmpty_map]
      split
      · refine Alike.push ?_ ?_
        · simp [Alike, unplaced, Function.comp_def]
        · simp [Expr.unplaced]
      · refine Alike.pushMember ?_ ?_
        · simp [Alike, unplaced, Function.comp_def]
        · simp [ClassSet.unplaced]

theorem pushOperator_unplaced (r : Reader) (c : Char) (operator : SetOperator) :
    Alike (r.unplaced.pushOperator c operator) (r.pushOperator c operator) := by
  have pending := applyPending_unplaced r.members.close r.layers
  rw [Members.unplaced_close] at pending
  have members : r.unplaced.members = r.members.unplaced := rfl
  have layers : r.unplaced.layers = r.layers.map ClassLayer.unplaced := rfl
  simp only [pushOperator, members, layers, pending]
  simp [Alike, unplaced, Function.comp_def, Members.unplaced]

theorem Alike.pushOperator (alike : Alike r s) (c : Char) (operator : SetOperator) :
    Alike (r.pushOperator c operator) (s.pushOperator c operator) := by
  have first := r.pushOperator_unplaced c operator
  have second := s.pushOperator_unplaced c operator
  have same : r.unplaced = s.unplaced := alike
  rw [same] at first
  exact first.symm.trans second

theorem stepMember_unplaced (r : Reader) (c : Char) (rest : List Char) :
    seen (r.unplaced.stepMember c rest) = seen (r.stepMember c rest) := by
  have alike := r.alike_unplaced
  unfold stepMember
  by_cases bracket : c = '['
  · rw [if_pos bracket, if_pos bracket]
    split
    · exact congrArg some (alike.become rfl c)
    · exact congrArg some (alike.become rfl c)
  rw [if_neg bracket, if_neg bracket]
  by_cases closes : c = ']'
  · rw [if_pos closes, if_pos closes]
    exact congrArg some (closeClass_unplaced r c)
  rw [if_neg closes, if_neg closes]
  split
  · exact congrArg some (alike.become rfl c)
  split
  · exact congrArg some (alike.become rfl c)
  · exact congrArg some (alike.become rfl c)

theorem Alike.stepMember (alike : Alike r s) (c : Char) (rest : List Char) :
    seen (r.stepMember c rest) = seen (s.stepMember c rest) := by
  have same : r.unplaced = s.unplaced := alike
  rw [← stepMember_unplaced r, same, stepMember_unplaced]

theorem asMember_unplaced (a : Atom) :
    a.unplaced.asMember.toOption = a.asMember.toOption.map ClassSet.unplaced := by
  cases a <;> rfl

theorem rangeOf_literal (low high : Literal) :
    rangeOf (.literal low) (.literal high) =
      if high.char < low.char then .error ⟨.classRangeInvalid, .cover low.span high.span, none⟩
      else .ok (.range (.cover low.span high.span) low high) := by
  simp only [rangeOf, Atom.asRangeEnd, bind, Except.bind]
  split <;> rfl

theorem rangeOf_unplaced (first last : Atom) :
    (rangeOf first.unplaced last.unplaced).toOption =
      (rangeOf first last).toOption.map ClassSet.unplaced := by
  cases first with
  | literal low =>
      cases last with
      | literal high =>
          simp only [Atom.unplaced, rangeOf_literal]
          by_cases backwards : high.char < low.char
          · have moved : high.unplaced.char < low.unplaced.char := backwards
            rw [if_pos backwards, if_pos moved]
            rfl
          · have moved : ¬ high.unplaced.char < low.unplaced.char := backwards
            rw [if_neg backwards, if_neg moved]
            rfl
      | _ => rfl
  | _ => rfl

theorem stepMemberEnd_unplaced (r : Reader) (item : Atom) (c : Char) (rest : List Char) :
    seen (r.unplaced.stepMemberEnd item.unplaced c rest) = seen (r.stepMemberEnd item c rest) := by
  have alike := r.alike_unplaced
  unfold stepMemberEnd
  by_cases dash : c = '-'
  · rw [if_pos dash, if_pos dash]
    exact congrArg some (alike.become (by simp [Mode.unplaced]) c)
  rw [if_neg dash, if_neg dash]
  simp only [seen_bind, asMember_unplaced, Option.bind_map]
  refine congrArg _ (funext fun member => ?_)
  exact (alike.pushMember member.unplaced_unplaced).stepMember c rest

theorem Alike.stepMemberEnd (alike : Alike r s) {item other : Atom}
    (same : item.unplaced = other.unplaced) (c : Char) (rest : List Char) :
    seen (r.stepMemberEnd item c rest) = seen (s.stepMemberEnd other c rest) := by
  have same_reader : r.unplaced = s.unplaced := alike
  rw [← stepMemberEnd_unplaced r, same_reader, same, stepMemberEnd_unplaced]

theorem mode_unplaced (r : Reader) : r.unplaced.mode = r.mode.unplaced := rfl

theorem stepItem_unplaced (r : Reader) (c : Char) (rest : List Char) :
    seen (r.unplaced.stepItem c rest) = seen (r.stepItem c rest) := by
  have alike := r.alike_unplaced
  have spaced : r.unplaced.spaced = r.spaced := rfl
  unfold stepItem
  rw [spaced, mode_unplaced]
  by_cases blank : (r.spaced && isBlank c) = true
  · rw [if_pos blank, if_pos blank]
    exact congrArg some alike
  rw [if_neg blank, if_neg blank]
  by_cases comment : (r.spaced && c = '#') = true
  · rw [if_pos comment, if_pos comment]
    exact congrArg (fun t => some { t with inComment := true }) alike
  rw [if_neg comment, if_neg comment]
  cases mode : r.mode with
  | sequence => exact stepSequence_unplaced r c
  | member => exact stepMember_unplaced r c rest
  | memberEnd item => exact stepMemberEnd_unplaced r item c rest
  | _ => exact congrArg some alike

theorem Alike.stepItem (alike : Alike r s) (c : Char) (rest : List Char) :
    seen (r.stepItem c rest) = seen (s.stepItem c rest) := by
  have same : r.unplaced = s.unplaced := alike
  rw [← stepItem_unplaced r, same, stepItem_unplaced]

theorem seen_stepItem {x y : Except Fault Reader} (same : seen x = seen y) (c : Char)
    (rest : List Char) :
    seen (x >>= (·.stepItem c rest)) = seen (y >>= (·.stepItem c rest)) :=
  seen_congr same fun _ _ alike => alike.stepItem c rest

theorem deliver_unplaced (r : Reader) (place : Place) {item other : Atom}
    (same : item.unplaced = other.unplaced) :
    seen (r.unplaced.deliver place.unplaced item) = seen (r.deliver place other) := by
  have alike := r.alike_unplaced
  cases place with
  | sequence => exact congrArg some (alike.push (by simp only [Expr.unplaced, same]))
  | member => exact congrArg some (alike.enter (by simp only [Mode.unplaced, same]))
  | rangeEnd first =>
      have range : (rangeOf first.unplaced item).toOption.map ClassSet.unplaced =
          (rangeOf first other).toOption.map ClassSet.unplaced := by
        rw [← rangeOf_unplaced, ← rangeOf_unplaced, same, Atom.unplaced_unplaced]
      simp only [Place.unplaced, deliver, seen_bind]
      cases one : rangeOf first.unplaced item <;> cases two : rangeOf first other <;>
        rw [one, two] at range
      · rfl
      · cases range
      · cases range
      · exact congrArg some (alike.pushMember (Option.some.inj range))

theorem seen_deliver_pass (r : Reader) (place : Place) {item other : Atom}
    (same : item.unplaced = other.unplaced) (c : Char) :
    seen (do return (← r.unplaced.deliver place.unplaced item).pass c) =
      seen (do return (← r.deliver place other).pass c) := by
  rw [seen_pass, seen_pass]
  exact deliver_unplaced r place same

theorem stepRangeEnd_unplaced (r : Reader) (first : Atom) (c : Char) :
    seen (r.unplaced.stepRangeEnd first.unplaced c) = seen (r.stepRangeEnd first c) := by
  unfold stepRangeEnd
  by_cases backslash : c = '\\'
  · rw [if_pos backslash, if_pos backslash]
    exact congrArg some (r.alike_unplaced.become (by simp [Mode.unplaced, Place.unplaced]) c)
  rw [if_neg backslash, if_neg backslash]
  exact seen_deliver_pass r (.rangeEnd first) (by rfl) c

theorem stepDash_unplaced (r : Reader) (item : Atom) (place moved : Position) (adjacent : Bool)
    (verdict : DashVerdict) (c : Char) (rest : List Char) :
    seen (r.unplaced.stepDash item.unplaced moved adjacent verdict c rest) =
      seen (r.stepDash item place adjacent verdict c rest) := by
  rw [stepDash_eq, stepDash_eq]
  by_cases itself : dashIsLiteral verdict c = true
  · rw [if_pos itself, if_pos itself]
    simp only [seen_bind, asMember_unplaced, Option.bind_map]
    refine congrArg _ (funext fun member => ?_)
    have pushed := r.alike_unplaced.pushMember member.unplaced_unplaced
    by_cases difference : (adjacent && c = '-') = true
    · simp only [Function.comp, difference, if_true]
      exact congrArg some (pushed.pushOperator c _)
    · simp only [Function.comp, difference]
      refine pushed.stepMemberEnd ?_ c rest
      rfl
  · rw [if_neg itself, if_neg itself]
    exact stepRangeEnd_unplaced r item c

theorem stepDoubled_unplaced (r : Reader) (first : Char) (place moved : Position) (c : Char)
    (rest : List Char) :
    seen (r.unplaced.stepDoubled first moved c rest) = seen (r.stepDoubled first place c rest) := by
  have alike := r.alike_unplaced
  unfold stepDoubled
  by_cases twice : c = first
  · rw [if_pos twice, if_pos twice]
    exact congrArg some (alike.pushOperator c _)
  rw [if_neg twice, if_neg twice]
  refine Alike.stepItem (alike.enter ?_) c rest
  rfl

theorem Alike.closeOpening (alike : Alike r s) (start place : Position) (negated : Bool)
    {members other : Members} (same : members.unplaced = other.unplaced) :
    Alike (r.closeOpening start negated members) (s.closeOpening place negated other) := by
  simp only [Alike, unplaced, Reader.mk.injEq, Reader.closeOpening, List.map_cons,
    ClassLayer.unplaced, same] at alike ⊢
  simp only [alike, and_self]

theorem stepClassOpen_unplaced (r : Reader) (start place : Position) (opening : Opening)
    (negated : Bool) (members : Members) (c : Char) (rest : List Char) :
    seen (r.unplaced.stepClassOpen place opening negated members.unplaced c rest) =
      seen (r.stepClassOpen start opening negated members c rest) := by
  have alike := r.alike_unplaced
  have items : members.unplaced.items.isEmpty = members.items.isEmpty := by
    simp [Members.unplaced]
  have pushed (item other : ClassSet) (same : item.unplaced = other.unplaced) :
      (members.unplaced.push item).unplaced = (members.push other).unplaced := by
    rw [Members.unplaced_push, Members.unplaced_push, Members.unplaced_unplaced, same]
  unfold stepClassOpen
  dsimp only
  by_cases caret : (opening = .bracket && c = '^') = true
  · rw [if_pos caret, if_pos caret]
    exact congrArg some (alike.become rfl c)
  rw [if_neg caret, if_neg caret]
  by_cases dash : (c = '-' && opening ≠ .bracketLiteral) = true
  · rw [if_pos dash, if_pos dash]
    refine congrArg some (alike.become ?_ c)
    exact congrArg (Mode.classOpen .first .dashes negated) (pushed _ _ rfl)
  rw [if_neg dash, if_neg dash]
  by_cases closes : (c = ']' && (opening = .bracket || opening = .caret)) = true
  · rw [if_pos closes, if_pos closes]
    refine congrArg some (alike.become ?_ c)
    exact congrArg (Mode.classOpen .first .bracketLiteral negated) (pushed _ _ rfl)
  rw [if_neg closes, if_neg closes, items]
  refine Alike.stepMember (alike.closeOpening place start negated ?_) c rest
  split
  · rfl
  · exact members.unplaced_unplaced

end Reader

end ScriptTypes.Pattern
