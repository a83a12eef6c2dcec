import ScriptTypes.Pattern.Matcher
import ScriptTypes.Proofs.Pattern.Numbering
import ScriptTypes.Proofs.Pattern.Shape

namespace ScriptTypes.Pattern

mutual

/-- The groups of an expression outside all repetitions that are dropped. -/
def Expr.lasting : Expr → List Group
  | repetition _ low high _ body => if low = 0 ∧ high = some 0 then [] else body.lasting
  | group _ (.capture index name) body => (index, name) :: body.lasting
  | group _ (.plain _) body => body.lasting
  | concat _ parts => Expr.allLasting parts
  | alternation _ branches => Expr.allLasting branches
  | _ => []

def Expr.allLasting : List Expr → List Group
  | [] => []
  | e :: rest => e.lasting ++ Expr.allLasting rest

end

@[simp] theorem allLasting_append (front back : List Expr) :
    Expr.allLasting (front ++ back) = Expr.allLasting front ++ Expr.allLasting back := by
  induction front with
  | nil => rfl
  | cons e front ih => simp only [List.cons_append, Expr.allLasting, ih, List.append_assoc]

@[simp] theorem allLasting_singleton (e : Expr) : Expr.allLasting [e] = e.lasting :=
  List.append_nil _

mutual

theorem lasting_sublist (e : Expr) : e.lasting.Sublist e.groups := by
  match e with
  | .empty _ => exact .slnil
  | .flags _ _ => exact .slnil
  | .atom _ => exact .slnil
  | .bracketed _ _ _ => exact .slnil
  | .repetition _ low high _ body =>
      rw [Expr.lasting, Expr.groups]
      split
      · exact List.nil_sublist _
      · exact lasting_sublist body
  | .group _ (.capture index name) body => exact (lasting_sublist body).cons_cons _
  | .group _ (.plain _) body => exact lasting_sublist body
  | .concat _ parts => exact allLasting_sublist parts
  | .alternation _ branches => exact allLasting_sublist branches

theorem allLasting_sublist (es : List Expr) :
    (Expr.allLasting es).Sublist (Expr.allGroups es) := by
  match es with
  | [] => exact .slnil
  | e :: rest => exact (lasting_sublist e).append (allLasting_sublist rest)

end

namespace Form

def cappedBounds (low : Nat) (high : Option Nat) (body : Form) : Nat × Option Nat :=
  if body.isBlank then (min low 1, some ((high.map (min · 1)).getD 1)) else (low, high)

theorem repeated_eq (low : Nat) (high : Option Nat) (greedy : Bool) (body : Form) :
    repeated low high greedy body =
      let bounds := cappedBounds low high body
      if bounds.1 = 0 && bounds.2 = some 0 then .empty
      else if bounds.1 = 1 && bounds.2 = some 1 then body
      else .repetition bounds.1 bounds.2 greedy body := rfl

theorem cappedBounds_none (low : Nat) (high : Option Nat) (body : Form) :
    (cappedBounds low high body).1 = 0 ∧ (cappedBounds low high body).2 = some 0 ↔
      low = 0 ∧ high = some 0 := by
  unfold cappedBounds
  split
  · cases high with
    | none => simp
    | some high => simp
  · rfl

theorem captures_repeated (low : Nat) (high : Option Nat) (greedy : Bool) (body : Form) :
    (repeated low high greedy body).captures =
      if low = 0 ∧ high = some 0 then [] else body.captures := by
  rw [repeated_eq]
  simp only [Bool.and_eq_true, decide_eq_true_eq, cappedBounds_none]
  by_cases dropped : low = 0 ∧ high = some 0
  · rw [if_pos dropped, if_pos dropped]
    rfl
  · rw [if_neg dropped, if_neg dropped]
    split <;> rfl

end Form

theorem form_atom {f : Flags} {a : Atom} {form : Form} (meant : a.form f = .ok form) :
    (∃ alphabet set, form = .ofSet alphabet set) ∨ (∃ c, form = .literal [c]) ∨ ∃ kind, form = .look kind := by
  cases a with
  | literal l =>
      obtain ⟨-, -, meant⟩ := bind_eq_ok.1 meant
      cases meant
      split
      · exact .inl ⟨_, _, rfl⟩
      · exact .inr (.inl ⟨_, rfl⟩)
  | dot span =>
      simp only [Atom.form, Flags.dot] at meant
      split at meant
      · cases meant
      split at meant
      · cases meant
        exact .inl ⟨_, _, rfl⟩
      split at meant <;>
      · cases meant
        exact .inl ⟨_, _, rfl⟩
  | assertion span kind =>
      cases meant
      exact .inr (.inr ⟨_, rfl⟩)
  | shorthand span kind negated =>
      obtain ⟨set, -, meant⟩ := bind_eq_ok.1 meant
      cases meant
      exact .inl ⟨_, _, rfl⟩
  | property span query negated =>
      obtain ⟨set, -, meant⟩ := bind_eq_ok.1 meant
      cases meant
      exact .inl ⟨_, _, rfl⟩

theorem captures_atom {f : Flags} {a : Atom} {form : Form} (meant : a.form f = .ok form) :
    form.captures = [] := by
  rcases form_atom meant with ⟨alphabet, set, rfl⟩ | ⟨c, rfl⟩ | ⟨kind, rfl⟩
  · exact Form.captures_ofSet alphabet set
  · rfl
  · rfl

mutual

/-- Which groups a form has. They may come in another number, for a common beginning is written
once, but they are the same. -/
theorem mem_captures_form (e : Expr) {f after : Flags} {form : Form}
    (meant : e.form f = .ok (form, after)) (g : Group) : g ∈ form.captures ↔ g ∈ e.lasting := by
  match e with
  | .empty _ =>
      cases meant
      rfl
  | .flags _ _ =>
      cases meant
      rfl
  | .atom _ =>
      obtain ⟨atom, spelled, meant⟩ := bind_eq_ok.1 meant
      cases meant
      rw [captures_atom spelled]
      rfl
  | .bracketed _ _ _ =>
      obtain ⟨_, -, meant⟩ := bind_eq_ok.1 meant
      obtain ⟨_, -, meant⟩ := bind_eq_ok.1 meant
      cases meant
      rw [Form.captures_ofSet]
      rfl
  -- a body that is repeated no times is dropped with its groups
  | .repetition _ low high _ body =>
      obtain ⟨⟨inner, _⟩, inner_meant, meant⟩ := bind_eq_ok.1 meant
      cases meant
      rw [Form.captures_repeated, Expr.lasting]
      split
      · rfl
      · exact mem_captures_form body inner_meant g
  | .group _ (.capture index name) body =>
      obtain ⟨⟨inner, _⟩, inner_meant, meant⟩ := bind_eq_ok.1 meant
      cases meant
      rw [Form.captures, Expr.lasting, List.mem_cons, List.mem_cons,
        mem_captures_form body inner_meant g]
  | .group _ (.plain _) body =>
      obtain ⟨⟨inner, _⟩, inner_meant, meant⟩ := bind_eq_ok.1 meant
      cases meant
      exact mem_captures_form body inner_meant g
  | .concat _ parts =>
      obtain ⟨⟨forms, _⟩, parts_meant, meant⟩ := bind_eq_ok.1 meant
      cases meant
      rw [Form.captures_concat]
      exact mem_captures_forms parts parts_meant g
  | .alternation _ branches =>
      obtain ⟨⟨forms, _⟩, branches_meant, meant⟩ := bind_eq_ok.1 meant
      cases meant
      rw [Form.alternation, Form.mem_captures_alternationOf]
      exact mem_captures_forms branches branches_meant g

theorem mem_captures_forms (es : List Expr) {f after : Flags} {forms : List Form}
    (meant : Expr.forms f es = .ok (forms, after)) (g : Group) :
    g ∈ forms.flatMap Form.captures ↔ g ∈ Expr.allLasting es := by
  match es with
  | [] =>
      cases meant
      rfl
  | e :: rest =>
      obtain ⟨⟨first, _⟩, first_meant, meant⟩ := bind_eq_ok.1 meant
      obtain ⟨⟨others, _⟩, rest_meant, meant⟩ := bind_eq_ok.1 meant
      cases meant
      rw [List.flatMap_cons, Expr.allLasting, List.mem_append, List.mem_append,
        mem_captures_form e first_meant g, mem_captures_forms rest rest_meant g]

end

end ScriptTypes.Pattern
