import Mathlib.Data.List.Forall2
import ScriptTypes.Proofs.Pattern.Conserving

/-!
Patterns that are valid because others are. What is left of a pattern without some parts that change
no flags nests no deeper, and has a meaning if the pattern has one.
-/

namespace ScriptTypes.Pattern

open ScriptTypes.Text

mutual

theorem ClassSet.shallower (m : ClassSet) {depth : Nat} (shallow : m.tooDeep? (depth + 1) = none) :
    m.tooDeep? depth = none := by
  match m with
  | .empty _ => rfl
  | .literal _ => rfl
  | .range _ _ _ => rfl
  | .ascii _ _ _ => rfl
  | .shorthand _ _ _ => rfl
  | .property _ _ _ => rfl
  | .bracketed _ _ body =>
      rw [ClassSet.tooDeep?] at shallow ⊢
      split at shallow
      · cases shallow
      · rw [if_neg (by omega)]
        exact ClassSet.shallower body shallow
  | .union _ members =>
      rw [ClassSet.tooDeep?] at shallow ⊢
      split at shallow
      · cases shallow
      · rw [if_neg (by omega)]
        exact ClassSet.all_shallower members shallow
  | .operation _ _ lhs rhs =>
      rw [ClassSet.tooDeep?] at shallow ⊢
      split at shallow
      · cases shallow
      · obtain ⟨left, right⟩ := Option.or_eq_none_iff.1 shallow
        rw [if_neg (by omega), ClassSet.shallower lhs left, ClassSet.shallower rhs right]
        rfl

theorem ClassSet.all_shallower (ms : List ClassSet) {depth : Nat}
    (shallow : ClassSet.anyTooDeep? (depth + 1) ms = none) :
    ClassSet.anyTooDeep? depth ms = none := by
  match ms with
  | [] => rfl
  | m :: rest =>
      obtain ⟨first, others⟩ := Option.or_eq_none_iff.1 shallow
      rw [ClassSet.anyTooDeep?, ClassSet.shallower m first, ClassSet.all_shallower rest others]
      rfl

end

mutual

theorem Expr.shallower (e : Expr) {depth : Nat} (shallow : e.tooDeep? (depth + 1) = none) :
    e.tooDeep? depth = none := by
  match e with
  | .empty _ => rfl
  | .flags _ _ => rfl
  | .atom _ => rfl
  | .bracketed _ _ body =>
      rw [Expr.tooDeep?] at shallow ⊢
      split at shallow
      · cases shallow
      · rw [if_neg (by omega)]
        exact ClassSet.shallower body shallow
  -- on both sides the parts stand one deeper than the whole
  | .repetition _ _ _ _ body =>
      rw [Expr.tooDeep?] at shallow ⊢
      split at shallow
      · cases shallow
      · rw [if_neg (by omega)]
        exact Expr.shallower body shallow
  | .group _ _ body =>
      rw [Expr.tooDeep?] at shallow ⊢
      split at shallow
      · cases shallow
      · rw [if_neg (by omega)]
        exact Expr.shallower body shallow
  | .concat _ parts =>
      rw [Expr.tooDeep?] at shallow ⊢
      split at shallow
      · cases shallow
      · rw [if_neg (by omega)]
        exact Expr.all_shallower parts shallow
  | .alternation _ branches =>
      rw [Expr.tooDeep?] at shallow ⊢
      split at shallow
      · cases shallow
      · rw [if_neg (by omega)]
        exact Expr.all_shallower branches shallow

theorem Expr.all_shallower (es : List Expr) {depth : Nat}
    (shallow : Expr.anyTooDeep? (depth + 1) es = none) : Expr.anyTooDeep? depth es = none := by
  match es with
  | [] => rfl
  | e :: rest =>
      obtain ⟨first, others⟩ := Option.or_eq_none_iff.1 shallow
      rw [Expr.anyTooDeep?, Expr.shallower e first, Expr.all_shallower rest others]
      rfl

end

theorem anyTooDeep_eq_none {depth : Nat} {es : List Expr} :
    Expr.anyTooDeep? depth es = none ↔ ∀ e ∈ es, e.tooDeep? depth = none := by
  induction es with
  | nil => simp [Expr.anyTooDeep?]
  | cons e rest ih => simp [Expr.anyTooDeep?, Option.or_eq_none_iff, ih]

/-- Whether one expression is valid wherever another is: it nests no deeper, and where the other has
a meaning it has one too, with the same flags behind it. -/
structure Expr.Vouches (e other : Expr) : Prop where
  shallow : ∀ depth, e.tooDeep? depth = none → other.tooDeep? depth = none
  meant : ∀ f form after, e.form f = .ok (form, after) → ∃ own, other.form f = .ok (own, after)

def Expr.KeepsFlags (e : Expr) : Prop := ∀ f form after, e.form f = .ok (form, after) → after = f

theorem Expr.Vouches.refl (e : Expr) : e.Vouches e :=
  ⟨fun _ shallow => shallow, fun _ form _ meant => ⟨form, meant⟩⟩

theorem Expr.Vouches.trans {e middle other : Expr} (first : e.Vouches middle)
    (last : middle.Vouches other) : e.Vouches other where
  shallow := fun depth shallow => last.shallow depth (first.shallow depth shallow)
  meant := by
    intro f form after meant
    obtain ⟨own, meant⟩ := first.meant f form after meant
    exact last.meant f own after meant

theorem vouches_alike {e other : Expr} (same : e.unplaced = other.unplaced) : e.Vouches other where
  shallow := fun depth => (tooDeep_alike same depth).1
  meant := fun f form after meant => ⟨form, means_alike same f (form, after) meant⟩

theorem shallow_close {s t : Sequence} {stop stop' : Position} {depth : Nat}
    (fewer : t.parts.length < s.parts.length) (within : ∀ e ∈ t.parts, e ∈ s.parts)
    (shallow : (s.close stop).tooDeep? depth = none) : (t.close stop').tooDeep? depth = none := by
  obtain ⟨start, parts⟩ := s
  obtain ⟨start', left⟩ := t
  match parts, left with
  | _, [] => rfl
  | [], _ :: _ => simp at fewer
  | [_], _ :: _ => simp at fewer
  | a :: b :: rest, only :: others =>
      simp only [Sequence.close, Expr.tooDeep?] at shallow
      split at shallow
      · cases shallow
      · rename_i inside
        have all := anyTooDeep_eq_none.1 shallow
        have inner : ∀ e ∈ only :: others, e.tooDeep? (depth + 1) = none := fun e member =>
          all e (List.mem_reverse.2 (within e member))
        cases others with
        | nil => exact only.shallower (inner only List.mem_cons_self)
        | cons next others =>
            simp only [Sequence.close, Expr.tooDeep?, if_neg inside]
            exact anyTooDeep_eq_none.2 fun e member => inner e (List.mem_reverse.1 member)

theorem forms_behind {f after : Flags} {front back : List Expr} {forms : List Form}
    (keep : ∀ e ∈ front, e.KeepsFlags) (meant : Expr.forms f (front ++ back) = .ok (forms, after)) :
    ∃ own, Expr.forms f back = .ok (own, after) := by
  induction front generalizing forms with
  | nil => exact ⟨forms, meant⟩
  | cons e front ih =>
      obtain ⟨⟨form, next⟩, first, meant⟩ := bind_eq_ok.1 meant
      obtain ⟨⟨others, stop⟩, rest, meant⟩ := bind_eq_ok.1 meant
      cases meant
      obtain rfl := keep e List.mem_cons_self f form next first
      exact ih (fun e member => keep e (List.mem_cons_of_mem _ member)) rest

theorem forms_vouched {es others : List Expr} (all : List.Forall₂ Expr.Vouches es others)
    {f after : Flags} {forms : List Form} (meant : Expr.forms f es = .ok (forms, after)) :
    ∃ own, Expr.forms f others = .ok (own, after) := by
  induction all generalizing f forms with
  | nil => exact ⟨forms, meant⟩
  | cons vouches _ ih =>
      obtain ⟨⟨form, next⟩, first, meant⟩ := bind_eq_ok.1 meant
      obtain ⟨⟨rest, stop⟩, others, meant⟩ := bind_eq_ok.1 meant
      cases meant
      obtain ⟨own, first⟩ := vouches.meant f form next first
      obtain ⟨owns, others⟩ := ih others
      exact ⟨own :: owns, by simp [Expr.forms, first, others, bind, Except.bind, pure, Except.pure]⟩

/-- The end of a sequence is not needed for what stands before it. -/
theorem vouches_push {s : Sequence} {e : Expr} (keeps : e.KeepsFlags) (stop stop' : Position) :
    ((s.push e).close stop).Vouches (s.close stop') where
  shallow := fun _ => shallow_close (Nat.lt_succ_self _) fun _ => List.mem_cons_of_mem e
  meant := by
    intro f form after meant
    obtain ⟨forms, parts_meant, rfl⟩ := form_close.1 meant
    rw [Sequence.push, List.reverse_cons] at parts_meant
    obtain ⟨front, middle, last, front_meant, last_meant, rfl⟩ := of_forms_concat parts_meant
    obtain rfl := keeps middle last after last_meant
    exact ⟨_, form_close.2 ⟨front, front_meant, rfl⟩⟩

/-- The beginning of a sequence is not needed for what stands behind it. -/
theorem vouches_behind {start start' : Position} {parts lead : List Expr}
    (keep : ∀ e ∈ lead, e.KeepsFlags) (some_lead : lead ≠ []) (stop stop' : Position) :
    (Sequence.close ⟨start, parts ++ lead⟩ stop).Vouches (Sequence.close ⟨start', parts⟩ stop') where
  shallow := by
    refine fun _ => shallow_close ?_ fun _ => List.mem_append_left lead
    have := List.length_pos_iff.2 some_lead
    simp only [List.length_append]
    omega
  meant := by
    intro f form after meant
    obtain ⟨forms, parts_meant, rfl⟩ := form_close.1 meant
    rw [List.reverse_append] at parts_meant
    obtain ⟨own, own_meant⟩ :=
      forms_behind (fun e member => keep e (List.mem_reverse.1 member)) parts_meant
    exact ⟨_, form_close.2 ⟨own, own_meant, rfl⟩⟩

theorem vouches_alternation {es others : List Expr} (all : List.Forall₂ Expr.Vouches es others)
    (span span' : Span) : (Expr.alternation span es).Vouches (.alternation span' others) where
  shallow := by
    intro depth shallow
    rw [Expr.tooDeep?] at shallow ⊢
    split at shallow
    · cases shallow
    · rename_i inside
      rw [if_neg inside, anyTooDeep_eq_none]
      have each := anyTooDeep_eq_none.1 shallow
      clear shallow
      induction all with
      | nil => exact fun _ absurd => nomatch absurd
      | cons vouches _ ih =>
          rw [List.forall_mem_cons] at each ⊢
          exact ⟨vouches.shallow _ each.1, ih each.2⟩
  meant := by
    intro f form after meant
    obtain ⟨⟨forms, stop⟩, branches_meant, meant⟩ := bind_eq_ok.1 meant
    cases meant
    obtain ⟨own, own_meant⟩ := forms_vouched all branches_meant
    exact ⟨.alternation own, by simp [Expr.form, own_meant, bind, Except.bind, pure, Except.pure]⟩

theorem vouches_closeLevel {branches others : Option Branches} {s t : Sequence}
    {stop stop' : Position}
    (earlier : Option.Rel (fun b c : Branches => List.Forall₂ Expr.Vouches b.done c.done)
      branches others)
    (last : (s.close stop).Vouches (t.close stop')) :
    (closeLevel branches s stop).Vouches (closeLevel others t stop') := by
  cases earlier with
  | none => exact last
  | some done =>
      refine vouches_alternation ?_ _ _
      rw [List.forall₂_reverse_iff]
      exact .cons last done

theorem vouches_last {s t : Sequence} {stop stop' : Position} (branches : Option Branches)
    (last : (s.close stop).Vouches (t.close stop')) :
    (closeLevel branches s stop).Vouches (closeLevel branches t stop') := by
  refine vouches_closeLevel ?_ last
  cases branches with
  | none => exact .none
  | some b => exact .some (List.forall₂_same.2 fun e _ => .refl e)

/-- Whether a text is a pattern, be it too large or not. -/
def WellFormed (text : List Char) : Prop :=
  ∃ e result, Expr.ofText? text = .ok e ∧ e.form {} = .ok result

theorem wellFormed_of_vouches {text : List Char} {r : Reader} {e own : Expr}
    {result : Form × Flags} (read : Reader.initial.run text = .ok r) (finished : r.finish = .ok own)
    (vouches : e.Vouches own) (shallow : e.tooDeep? 0 = none) (meant : e.form {} = .ok result) :
    WellFormed text := by
  obtain ⟨form, own_meant⟩ := vouches.meant {} result.1 result.2 meant
  exact ⟨own, _, ofText_eq_ok.2 ⟨r, read, finished, vouches.shallow 0 shallow⟩, own_meant⟩

end ScriptTypes.Pattern
