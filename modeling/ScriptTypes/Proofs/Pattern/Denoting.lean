import ScriptTypes.Proofs.Pattern.Conserving
import ScriptTypes.Proofs.Pattern.Vouching

namespace ScriptTypes.Pattern

open ScriptTypes.Text

/-- The form of an expression that leaves the flags as they are when none are set, and a bound for
how deep it nests. -/
structure Expr.Denotes (e : Expr) (form : Form) (levels : Nat) : Prop where
  meant : e.form {} = .ok (form, {})
  shallow : ∀ depth, depth + levels ≤ depthLimit → e.tooDeep? depth = none

abbrev AllDenote (es : List Expr) (forms : List Form) (levels : Nat) : Prop :=
  List.Forall₂ (fun e form => Expr.Denotes e form levels) es forms

variable {e : Expr} {es : List Expr} {form : Form} {forms : List Form} {levels more : Nat}

theorem Expr.Denotes.mono (denotes : e.Denotes form levels) (bound : levels ≤ more) : e.Denotes form more :=
  ⟨denotes.meant, fun depth room => denotes.shallow depth (by omega)⟩

theorem AllDenote.mono (denote : AllDenote es forms levels) (bound : levels ≤ more) :
    AllDenote es forms more := List.Forall₂.imp (fun _ _ denotes => denotes.mono bound) denote

theorem AllDenote.meant (denote : AllDenote es forms levels) : Expr.forms {} es = .ok (forms, {}) := by
  induction denote with
  | nil => rfl
  | cons first _ ih => simp [Expr.forms, first.meant, ih, bind, Except.bind, pure, Except.pure]

theorem AllDenote.shallow (denote : AllDenote es forms levels) {depth : Nat}
    (room : depth + levels ≤ depthLimit) : Expr.anyTooDeep? depth es = none := by
  induction denote with
  | nil => rfl
  | cons first _ ih => rw [Expr.anyTooDeep?, first.shallow depth room, ih, Option.or_none]

theorem denotes_empty (span : Span) : (Expr.empty span).Denotes .empty 0 :=
  ⟨rfl, fun _ _ => rfl⟩

theorem denotes_assertion (span : Span) (kind : Assertion) :
    (Expr.atom (.assertion span kind)).Denotes (.look (Flags.look {} kind)) 0 :=
  ⟨rfl, fun _ _ => rfl⟩

theorem denotes_close {s : Sequence} (parts : s.parts = es.reverse)
    (denote : AllDenote es forms levels) (stop : Position) :
    (s.close stop).Denotes (.concat forms) (levels + 1) := by
  refine ⟨form_close.2 ⟨forms, ?_, rfl⟩, fun depth room => ?_⟩
  · rw [parts, List.reverse_reverse]
    exact denote.meant
  · have inner : Expr.anyTooDeep? (depth + 1) es = none := denote.shallow (by omega)
    unfold Sequence.close
    rw [parts]
    split <;> rename_i same
    · rfl
    · rw [List.reverse_eq_iff.1 same] at inner
      exact Expr.shallower _ (anyTooDeep_eq_none.1 inner _ (by simp))
    · rw [Expr.tooDeep?, if_neg (by omega), List.reverse_reverse]
      exact inner

theorem denotes_group (denotes : e.Denotes form levels) (span : Span) (index : Nat) (name : Option String) :
    (Expr.group span (.capture index name) e).Denotes (.capture index name form) (levels + 1) where
  meant := by simp [Expr.form, denotes.meant, bind, Except.bind, pure, Except.pure]
  shallow := by
    intro depth room
    rw [Expr.tooDeep?, if_neg (by omega), denotes.shallow (depth + 1) (by omega)]

theorem denotes_alternation (denote : AllDenote es forms levels) (span : Span) :
    (Expr.alternation span es).Denotes (.alternation forms) (levels + 1) where
  meant := by simp [Expr.form, denote.meant, bind, Except.bind, pure, Except.pure]
  shallow := by
    intro depth room
    rw [Expr.tooDeep?, if_neg (by omega), denote.shallow (by omega)]

theorem denotes_repetition (denotes : e.Denotes form levels) (span : Span) (low : Nat) (high : Option Nat)
    (greedy : Bool) :
    (Expr.repetition span low high greedy e).Denotes (.repeated low high greedy form) (levels + 1) where
  meant := by simp [Expr.form, denotes.meant, bind, Except.bind, pure, Except.pure]
  shallow := by
    intro depth room
    rw [Expr.tooDeep?, if_neg (by omega), denotes.shallow (depth + 1) (by omega)]

/-- A text that is read as expressions, outside all groups and without branches, has the form that
they denote, unless that is too large. -/
theorem formOf_of_denotes {text : List Char} {r s : Reader} (read : Reader.initial.run text = .ok r)
    (settled : r.settle = .ok s) (ready : s.mode = .sequence) (outside : s.frames = [])
    (single : s.branches = none) (parts : s.sequence.parts = es.reverse)
    (denote : AllDenote es forms levels) (room : levels < depthLimit)
    (fits : Matcher.formOf? text ≠ .error (.tooLarge weightLimit)) :
    Matcher.formOf? text = .ok (.concat forms) := by
  have finished : r.finish = .ok (s.sequence.close s.position) :=
    Reader.finish_eq_ok.2 ⟨s, settled, ready, outside, by rw [single]; rfl⟩
  have denotes := denotes_close parts denote s.position
  have spelled : Expr.ofText? text = .ok _ :=
    ofText_eq_ok.2 ⟨r, read, finished, denotes.shallow 0 (by omega)⟩
  rw [Matcher.formOf?, spelled] at fits ⊢
  simp only [bind, Except.bind, denotes.meant] at fits ⊢
  split
  · rfl
  · rename_i large
    rw [if_neg large] at fits
    exact absurd rfl fits

end ScriptTypes.Pattern
