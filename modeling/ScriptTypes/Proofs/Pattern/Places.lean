import ScriptTypes.Pattern.Meaning
import ScriptTypes.Proofs.Pattern.Groups

/-!
Places in the text. A pattern keeps them for the report on a fault only: what it means and how deep
it nests is the same wherever it stands.
-/

namespace ScriptTypes.Pattern

open ScriptTypes.Text

abbrev nowhere : Span := ⟨.first, .first⟩

def Literal.unplaced (l : Literal) : Literal := { l with span := nowhere }

def Atom.unplaced : Atom → Atom
  | literal l => .literal l.unplaced
  | dot _ => .dot nowhere
  | assertion _ kind => .assertion nowhere kind
  | shorthand _ kind negated => .shorthand nowhere kind negated
  | property _ query negated => .property nowhere query negated

mutual

def ClassSet.unplaced : ClassSet → ClassSet
  | empty _ => .empty nowhere
  | literal l => .literal l.unplaced
  | range _ low high => .range nowhere low.unplaced high.unplaced
  | ascii _ kind negated => .ascii nowhere kind negated
  | shorthand _ kind negated => .shorthand nowhere kind negated
  | property _ query negated => .property nowhere query negated
  | bracketed _ negated body => .bracketed nowhere negated body.unplaced
  | union _ members => .union nowhere (ClassSet.allUnplaced members)
  | operation _ operator lhs rhs => .operation nowhere operator lhs.unplaced rhs.unplaced

def ClassSet.allUnplaced : List ClassSet → List ClassSet
  | [] => []
  | m :: rest => m.unplaced :: ClassSet.allUnplaced rest

end

mutual

def Expr.unplaced : Expr → Expr
  | empty _ => .empty nowhere
  | flags _ changes => .flags nowhere changes
  | atom a => .atom a.unplaced
  | bracketed _ negated body => .bracketed nowhere negated body.unplaced
  | repetition _ low high greedy body => .repetition nowhere low high greedy body.unplaced
  | group _ kind body => .group nowhere kind body.unplaced
  | concat _ parts => .concat nowhere (Expr.allUnplaced parts)
  | alternation _ branches => .alternation nowhere (Expr.allUnplaced branches)

def Expr.allUnplaced : List Expr → List Expr
  | [] => []
  | e :: rest => e.unplaced :: Expr.allUnplaced rest

end

theorem ClassSet.allUnplaced_eq (ms : List ClassSet) :
    ClassSet.allUnplaced ms = ms.map ClassSet.unplaced := by
  induction ms with
  | nil => rfl
  | cons m rest ih => rw [ClassSet.allUnplaced, ih, List.map_cons]

theorem Expr.allUnplaced_eq (es : List Expr) :
    Expr.allUnplaced es = es.map Expr.unplaced := by
  induction es with
  | nil => rfl
  | cons e rest ih => rw [Expr.allUnplaced, ih, List.map_cons]

@[simp] theorem Literal.span_unplaced (l : Literal) : l.unplaced.span = nowhere := rfl

@[simp] theorem Literal.unplaced_unplaced (l : Literal) : l.unplaced.unplaced = l.unplaced := rfl

@[simp] theorem Atom.span_unplaced (a : Atom) : a.unplaced.span = nowhere := by
  cases a <;> rfl

@[simp] theorem Atom.unplaced_unplaced (a : Atom) : a.unplaced.unplaced = a.unplaced := by
  cases a <;> rfl

@[simp] theorem ClassSet.span_unplaced (m : ClassSet) : m.unplaced.span = nowhere := by
  cases m <;> simp [ClassSet.unplaced, ClassSet.span]

@[simp] theorem Expr.span_unplaced (e : Expr) : e.unplaced.span = nowhere := by
  cases e <;> simp [Expr.unplaced, Expr.span]

@[simp] theorem Expr.isRepeatable_unplaced (e : Expr) :
    e.unplaced.isRepeatable = e.isRepeatable := by
  cases e <;> simp [Expr.unplaced, Expr.isRepeatable]

mutual

@[simp] theorem ClassSet.unplaced_unplaced (m : ClassSet) : m.unplaced.unplaced = m.unplaced := by
  match m with
  | .empty _ => rfl
  | .literal _ => rfl
  | .range _ _ _ => rfl
  | .ascii _ _ _ => rfl
  | .shorthand _ _ _ => rfl
  | .property _ _ _ => rfl
  | .bracketed _ _ body => simp only [ClassSet.unplaced, ClassSet.unplaced_unplaced body]
  | .union _ members => simp only [ClassSet.unplaced, ClassSet.allUnplaced_twice members]
  | .operation _ _ lhs rhs =>
      simp only [ClassSet.unplaced, ClassSet.unplaced_unplaced lhs, ClassSet.unplaced_unplaced rhs]

theorem ClassSet.allUnplaced_twice (ms : List ClassSet) :
    ClassSet.allUnplaced (ClassSet.allUnplaced ms) = ClassSet.allUnplaced ms := by
  match ms with
  | [] => rfl
  | m :: rest =>
      simp only [ClassSet.allUnplaced, ClassSet.unplaced_unplaced m,
        ClassSet.allUnplaced_twice rest]

end

mutual

@[simp] theorem Expr.unplaced_unplaced (e : Expr) : e.unplaced.unplaced = e.unplaced := by
  match e with
  | .empty _ => rfl
  | .flags _ _ => rfl
  | .atom a => simp only [Expr.unplaced, Atom.unplaced_unplaced]
  | .bracketed _ _ body => simp only [Expr.unplaced, ClassSet.unplaced_unplaced]
  | .repetition _ _ _ _ body => simp only [Expr.unplaced, Expr.unplaced_unplaced body]
  | .group _ _ body => simp only [Expr.unplaced, Expr.unplaced_unplaced body]
  | .concat _ parts => simp only [Expr.unplaced, Expr.allUnplaced_twice parts]
  | .alternation _ branches => simp only [Expr.unplaced, Expr.allUnplaced_twice branches]

theorem Expr.allUnplaced_twice (es : List Expr) :
    Expr.allUnplaced (Expr.allUnplaced es) = Expr.allUnplaced es := by
  match es with
  | [] => rfl
  | e :: rest =>
      simp only [Expr.allUnplaced, Expr.unplaced_unplaced e, Expr.allUnplaced_twice rest]

end

mutual

theorem ClassSet.tooDeep_unplaced (m : ClassSet) (depth : Nat) :
    m.unplaced.tooDeep? depth = none ↔ m.tooDeep? depth = none := by
  match m with
  | .empty _ => exact Iff.rfl
  | .literal _ => exact Iff.rfl
  | .range _ _ _ => exact Iff.rfl
  | .ascii _ _ _ => exact Iff.rfl
  | .shorthand _ _ _ => exact Iff.rfl
  | .property _ _ _ => exact Iff.rfl
  | .bracketed _ _ body =>
      have inner := ClassSet.tooDeep_unplaced body (depth + 1)
      simp only [ClassSet.unplaced, ClassSet.tooDeep?]
      split <;> simp [inner]
  | .union _ members =>
      have inner := ClassSet.anyTooDeep_unplaced members (depth + 1)
      simp only [ClassSet.unplaced, ClassSet.tooDeep?]
      split <;> simp [inner]
  | .operation _ _ lhs rhs =>
      have left := ClassSet.tooDeep_unplaced lhs (depth + 1)
      have right := ClassSet.tooDeep_unplaced rhs (depth + 1)
      simp only [ClassSet.unplaced, ClassSet.tooDeep?]
      split <;> simp [left, right, Option.or_eq_none_iff]

theorem ClassSet.anyTooDeep_unplaced (ms : List ClassSet) (depth : Nat) :
    ClassSet.anyTooDeep? depth (ClassSet.allUnplaced ms) = none ↔
      ClassSet.anyTooDeep? depth ms = none := by
  match ms with
  | [] => exact Iff.rfl
  | m :: rest =>
      have first := ClassSet.tooDeep_unplaced m depth
      have others := ClassSet.anyTooDeep_unplaced rest depth
      simp only [ClassSet.allUnplaced, ClassSet.anyTooDeep?, Option.or_eq_none_iff, first, others]

end

mutual

theorem tooDeep_unplaced (e : Expr) (depth : Nat) :
    e.unplaced.tooDeep? depth = none ↔ e.tooDeep? depth = none := by
  match e with
  | .empty _ => exact Iff.rfl
  | .flags _ _ => exact Iff.rfl
  | .atom _ => exact Iff.rfl
  | .bracketed _ _ body =>
      have inner := ClassSet.tooDeep_unplaced body (depth + 1)
      simp only [Expr.unplaced, Expr.tooDeep?]
      split <;> simp [inner]
  | .repetition _ _ _ _ body =>
      have inner := tooDeep_unplaced body (depth + 1)
      simp only [Expr.unplaced, Expr.tooDeep?]
      split <;> simp [inner]
  | .group _ _ body =>
      have inner := tooDeep_unplaced body (depth + 1)
      simp only [Expr.unplaced, Expr.tooDeep?]
      split <;> simp [inner]
  | .concat _ parts =>
      have inner := anyTooDeep_unplaced parts (depth + 1)
      simp only [Expr.unplaced, Expr.tooDeep?]
      split <;> simp [inner]
  | .alternation _ branches =>
      have inner := anyTooDeep_unplaced branches (depth + 1)
      simp only [Expr.unplaced, Expr.tooDeep?]
      split <;> simp [inner]

theorem anyTooDeep_unplaced (es : List Expr) (depth : Nat) :
    Expr.anyTooDeep? depth (Expr.allUnplaced es) = none ↔ Expr.anyTooDeep? depth es = none := by
  match es with
  | [] => exact Iff.rfl
  | e :: rest =>
      have first := tooDeep_unplaced e depth
      have others := anyTooDeep_unplaced rest depth
      simp only [Expr.allUnplaced, Expr.anyTooDeep?, Option.or_eq_none_iff, first, others]

end

theorem toOption_bind {α β : Type} (x : Except Fault α) (g : α → Except Fault β) :
    (x >>= g).toOption = x.toOption.bind fun a => (g a).toOption := by
  cases x <;> rfl

section Meaning

variable (f : Flags)

theorem toOption_negate (span : Span) (negated : Bool) (set : Unicode.CharSet) :
    (f.negate span negated set).toOption = (f.negate nowhere negated set).toOption := by
  unfold Flags.negate
  split
  · rfl
  · split <;> rfl

theorem toOption_checkByte (l : Literal) :
    (f.checkByte l.unplaced).toOption = (f.checkByte l).toOption := by
  change (f.checkByte { l with span := nowhere }).toOption = _
  simp only [Flags.checkByte]
  split <;> rfl

theorem toOption_classChar (l : Literal) :
    (f.classChar l.unplaced).toOption = (f.classChar l).toOption := by
  simp only [Flags.classChar, toOption_bind, toOption_checkByte]
  change ((f.checkByte l).toOption.bind fun _ => Except.toOption (if
    !f.unicode && decide (0x80 ≤ l.char.toNat) then _ else _)) = _
  congr 1
  funext _
  split <;> rfl

theorem toOption_propertySet (span : Span) (query : Unicode.PropertyQuery) (negated : Bool) :
    (f.propertySet span query negated).toOption =
      (f.propertySet nowhere query negated).toOption := by
  unfold Flags.propertySet
  split
  · rfl
  · cases query.set with
    | error fault => cases fault <;> rfl
    | ok set => exact toOption_negate f span negated (f.fold set)

theorem toOption_dot (span : Span) : (f.dot span).toOption = (f.dot nowhere).toOption := by
  unfold Flags.dot
  split
  · rfl
  · rfl

mutual

theorem addTo_unplaced (known : Unicode.CharSet) (m : ClassSet) :
    (m.unplaced.addTo f known).toOption = (m.addTo f known).toOption := by
  match m with
  | .empty _ => rfl
  | .literal l =>
      simp only [ClassSet.unplaced, ClassSet.addTo, toOption_bind, toOption_classChar]
  | .range _ low high =>
      simp only [ClassSet.unplaced, ClassSet.addTo, toOption_bind, toOption_classChar]
  | .ascii span kind negated =>
      simp only [ClassSet.unplaced, ClassSet.addTo, toOption_bind, toOption_negate f span]
  | .shorthand span kind negated =>
      simp only [ClassSet.unplaced, ClassSet.addTo, toOption_bind, toOption_negate f span]
  | .property span query negated =>
      simp only [ClassSet.unplaced, ClassSet.addTo, toOption_bind, toOption_propertySet f span]
  | .bracketed span negated body =>
      simp only [ClassSet.unplaced, ClassSet.addTo, toOption_bind, addTo_unplaced .empty body,
        toOption_negate f span]
  | .union _ members => exact addAllTo_unplaced known members
  | .operation _ _ lhs rhs =>
      simp only [ClassSet.unplaced, ClassSet.addTo, toOption_bind, addTo_unplaced .empty lhs,
        addTo_unplaced .empty rhs]

theorem addAllTo_unplaced (known : Unicode.CharSet) (ms : List ClassSet) :
    (ClassSet.addAllTo f known (ClassSet.allUnplaced ms)).toOption =
      (ClassSet.addAllTo f known ms).toOption := by
  match ms with
  | [] => rfl
  | m :: rest =>
      simp only [ClassSet.allUnplaced, ClassSet.addAllTo, toOption_bind, addTo_unplaced known m,
        addAllTo_unplaced _ rest]

end

theorem set_unplaced (m : ClassSet) : (m.unplaced.set f).toOption = (m.set f).toOption :=
  addTo_unplaced f .empty m

theorem form_unplaced_atom (a : Atom) : (a.unplaced.form f).toOption = (a.form f).toOption := by
  cases a with
  | literal l =>
      simp only [Atom.unplaced, Atom.form, toOption_bind, toOption_checkByte]
      rfl
  | dot span => exact (toOption_dot f span).symm
  | assertion span kind => rfl
  | shorthand span kind negated =>
      simp only [Atom.unplaced, Atom.form, toOption_bind, toOption_negate f span]
  | property span query negated =>
      simp only [Atom.unplaced, Atom.form, toOption_bind, toOption_propertySet f span]

end Meaning

mutual

theorem form_unplaced (e : Expr) (f : Flags) : (e.unplaced.form f).toOption = (e.form f).toOption := by
  match e with
  | .empty _ => rfl
  | .flags _ _ => rfl
  | .atom a => simp only [Expr.unplaced, Expr.form, toOption_bind, form_unplaced_atom]
  | .bracketed span negated body =>
      simp only [Expr.unplaced, Expr.form, toOption_bind, set_unplaced, toOption_negate f span]
  | .repetition _ _ _ _ body =>
      simp only [Expr.unplaced, Expr.form, toOption_bind, form_unplaced body]
  | .group _ (.capture _ _) body =>
      simp only [Expr.unplaced, Expr.form, toOption_bind, form_unplaced body]
  | .group _ (.plain _) body =>
      simp only [Expr.unplaced, Expr.form, toOption_bind, form_unplaced body]
  | .concat _ parts => simp only [Expr.unplaced, Expr.form, toOption_bind, forms_unplaced parts]
  | .alternation _ branches =>
      simp only [Expr.unplaced, Expr.form, toOption_bind, forms_unplaced branches]

theorem forms_unplaced (es : List Expr) (f : Flags) :
    (Expr.forms f (Expr.allUnplaced es)).toOption = (Expr.forms f es).toOption := by
  match es with
  | [] => rfl
  | e :: rest =>
      simp only [Expr.allUnplaced, Expr.forms, toOption_bind, form_unplaced e, forms_unplaced rest]

end

def Expr.Means (e other : Expr) : Prop :=
  ∀ f result, e.form f = .ok result → other.form f = .ok result

section Alike

variable {e other : Expr} (same : e.unplaced = other.unplaced)
include same

theorem form_alike (f : Flags) : (e.form f).toOption = (other.form f).toOption := by
  rw [← form_unplaced, same, form_unplaced]

theorem means_alike : e.Means other := by
  intro f result meant
  have outcome := form_alike same f
  rw [meant] at outcome
  cases meant_other : other.form f with
  | error fault =>
      rw [meant_other] at outcome
      cases outcome
  | ok found =>
      rw [meant_other] at outcome
      exact congrArg Except.ok (Option.some.inj outcome).symm

theorem tooDeep_alike (depth : Nat) : e.tooDeep? depth = none ↔ other.tooDeep? depth = none := by
  rw [← tooDeep_unplaced, same, tooDeep_unplaced]

end Alike

end ScriptTypes.Pattern
