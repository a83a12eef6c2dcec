import Mathlib.Data.List.TakeWhile
import ScriptTypes.Proofs.Pattern.Foreign

/-!
Where an escape is open. Only a backslash opens one, so a text that ends in the middle of an escape
ends in a backslash; outside classes, in an odd number of them, since of two in a row the second is
taken by the first.
-/

namespace ScriptTypes.Pattern

open ScriptTypes.Text

theorem FirstMode.plain {c : Char} {mode : Mode} (first : FirstMode c mode) (other : c ≠ '\\') :
    mode.isEscape = false := by
  cases first with
  | escape start same => exact absurd same other
  | _ => rfl

namespace Reader

variable {r s next : Reader} {c : Char} {rest : List Char}

theorem ItemStep.plain {o : Outline} {x y : Except Fault Reader} (item : ItemStep c r o x y)
    (other : c ≠ '\\') (stepped : x = .ok next) : next.mode.isEscape = false := by
  cases item with
  | changes changes =>
      cases changes with
      | refuse fault => cases stepped
      | done change =>
          cases stepped
          exact Bool.eq_false_iff.2 fun escape => other (change.escape escape)
  | sequence ready shape => exact (shape.first ready stepped).plain other

/-- Only a backslash opens an escape. -/
theorem stepMode_plain (other : c ≠ '\\') (stepped : r.stepMode c rest = .ok next) :
    next.mode.isEscape = false := by
  cases modeStep r r.outline c rest with
  | item item => exact item.plain other stepped
  | settled first item => exact item.plain other stepped
  | opened first item => exact item.plain other stepped

end Reader

def backslashes (text : List Char) : Nat := (text.reverse.takeWhile (· = '\\')).length

theorem backslashes_append {front : List Char} (plain : ∀ c ∈ front, c ≠ '\\') (text : List Char) :
    backslashes (front ++ text) = backslashes text := by
  have none_before : front.reverse.takeWhile (· = '\\') = [] := by
    refine List.takeWhile_eq_nil_iff.2 fun long => ?_
    simpa using plain _ (List.mem_reverse.1 (List.get_mem _ ⟨0, long⟩))
  rw [backslashes, backslashes, List.reverse_append, List.takeWhile_append, none_before,
    List.append_nil]
  split
  · rename_i all
    rw [all]
  · rfl

theorem backslashes_concat (text : List Char) (c : Char) :
    backslashes (text ++ [c]) = if c = '\\' then backslashes text + 1 else 0 := by
  rw [backslashes, List.reverse_append, List.reverse_singleton, List.singleton_append,
    List.takeWhile_cons]
  by_cases same : c = '\\' <;> simp [same, backslashes]

theorem backslashes_pos {text : List Char} : 0 < backslashes text ↔ text.getLast? = some '\\' := by
  rw [backslashes, ← List.head?_reverse]
  cases text.reverse with
  | nil => simp
  | cons c rest => by_cases same : c = '\\' <;> simp [same]

namespace Reader

/-- How the backslashes at the end of a text are taken: in pairs where an item may begin, and with
one left over in an escape. -/
structure Paired (text : List Char) (r : Reader) : Prop where
  awake : ∀ start, r.mode = .escape start .sequence → r.inComment = false
  odd : ∀ start, r.mode = .escape start .sequence → backslashes text % 2 = 1
  even : r.inComment = false →
    (∃ s, r.settle = .ok s ∧ s.mode = .sequence) ∨ (∃ opening, r.mode = .groupOpen opening) →
    backslashes text % 2 = 0

variable {r s next : Reader} {c : Char} {rest text : List Char}

theorem paired_initial : Paired [] initial where
  awake := by rintro _ ⟨⟩
  odd := by rintro _ ⟨⟩
  even := fun _ _ => rfl

theorem observe_mode {start : Position} {place : Place}
    (mode : (r.observe c).mode = .escape start place) : r.mode = .escape start place := by
  unfold observe at mode
  split at mode
  · cases mode
  · exact mode

theorem not_escape_of_step (plain : c ≠ '\\') (paired : Paired text r)
    (stepped : r.step c rest = .ok next) (start : Position) :
    next.mode ≠ .escape start .sequence := by
  intro mode
  cases step_taken stepped with
  | passed commented skips begun same =>
      have own : r.mode = .escape start .sequence := by
        rw [same] at mode
        exact observe_mode mode
      rcases skips with asleep | ⟨-, passes, -⟩
      · rw [paired.awake start own] at asleep
        cases asleep
      · rw [own] at passes
        cases passes
  | read awake visible stepped =>
      have calm := stepMode_plain plain stepped
      rw [mode] at calm
      cases calm

theorem step_backslash (awake : r.inComment = false) :
    r.step '\\' rest = r.stepMode '\\' rest :=
  step_visible awake (by decide) (by decide)

theorem stepItem_backslash (ready : s.mode = .sequence) (rest : List Char) :
    s.stepItem '\\' rest = .ok (s.become '\\' (.escape s.position .sequence)) := by
  have dark : isBlank '\\' = false := by decide
  simp [stepItem, dark, ready, stepSequence]

theorem paired_become (even : backslashes text % 2 = 0) (awake : s.inComment = false) :
    Paired (text ++ ['\\']) (s.become '\\' (.escape s.position .sequence)) where
  awake := fun _ _ => awake
  odd := by
    intro start mode
    rw [backslashes_concat, if_pos rfl]
    omega
  even := by
    rintro - (⟨t, settled, ready⟩ | ⟨opening, mode⟩)
    · cases settled
      cases ready
    · cases mode

theorem paired_of_mode (closed : ∀ start, next.mode ≠ .escape start .sequence)
    (busy : next.inComment = false → (∀ s, next.settle = .ok s → s.mode ≠ .sequence) ∧
      ∀ opening, next.mode ≠ .groupOpen opening) : Paired text next where
  awake := fun start mode => absurd mode (closed start)
  odd := fun start mode => absurd mode (closed start)
  even := by
    rintro awake (⟨s, settled, ready⟩ | ⟨opening, mode⟩)
    · exact absurd ready ((busy awake).1 s settled)
    · exact absurd mode ((busy awake).2 opening)

theorem paired_commented (paired : Paired text r) (commented : r.inComment = true)
    (stepped : r.step '\\' rest = .ok next) : Paired (text ++ ['\\']) next := by
  rw [step, if_pos commented] at stepped
  cases stepped
  refine paired_of_mode (fun start mode => ?_) fun awake => ?_
  · rw [paired.awake start (observe_mode mode)] at commented
    cases commented
  · cases awake

theorem paired_inClass (inside : r.mode.inClass = true) (stepped : r.stepMode '\\' rest = .ok next) :
    Paired text next := by
  have still := stepMode_inClass (by decide) inside stepped
  have outside {m : Mode} (mode : next.mode = m) : m.inClass = true := mode ▸ still
  refine paired_of_mode (fun start mode => ?_) fun _ => ⟨fun s settled ready => ?_, ?_⟩
  · cases outside mode
  · have inner := settle_inClass still settled
    rw [ready] at inner
    cases inner
  · intro opening mode
    cases outside mode

theorem paired_outside (paired : Paired text r) (awake : r.inComment = false)
    (outside : r.mode.inClass = false) (stepped : r.stepMode '\\' rest = .ok next) :
    Paired (text ++ ['\\']) next := by
  cases place_of_foreign foreign_backslash outside stepped with
  | item settled ready =>
      have visible (spaced : Bool) : (spaced && isBlank '\\') = false := by
        cases spaced <;> decide
      rw [stepMode_settled settled ready (by decide) (by decide) (by decide) fun _ => visible _,
        stepItem_backslash ready] at stepped
      cases stepped
      refine paired_become (paired.even awake (.inl ⟨_, settled, ready⟩)) ?_
      exact (settle_inComment settled ready).trans awake
  | @opening opening mode =>
      have opened : r.stepMode '\\' rest = (r.openCapture opening none).stepItem '\\' rest := by
        simp [stepMode, mode]
      rw [opened, stepItem_backslash rfl] at stepped
      cases stepped
      exact paired_become (paired.even awake (.inr ⟨_, mode⟩)) awake
  -- the second backslash of a pair, behind which their number is even again
  | escape mode =>
      have odd := paired.odd _ mode
      simp only [stepMode, mode] at stepped
      cases stepped
      refine ⟨by rintro _ ⟨⟩, by rintro _ ⟨⟩, fun _ _ => ?_⟩
      rw [backslashes_concat, if_pos rfl]
      omega
  | property mode =>
      simp only [stepMode, mode] at stepped
      cases stepped
  | propertyName mode =>
      simp only [stepMode, mode] at stepped
      cases stepped
      refine paired_of_mode (by rintro _ ⟨⟩) fun _ => ⟨?_, ?_⟩
      · rintro s settled
        cases settled
        intro absurd
        cases absurd
      · intro opening absurd
        cases absurd
  | name part mode => exact absurd part (by decide)
  | count blank mode => exact absurd blank (by decide)

theorem paired_backslash (paired : Paired text r) (stepped : r.step '\\' rest = .ok next) :
    Paired (text ++ ['\\']) next := by
  cases commented : r.inComment with
  | true => exact paired_commented paired commented stepped
  | false =>
      rw [step_backslash commented] at stepped
      cases inside : r.mode.inClass with
      | true => exact paired_inClass inside stepped
      | false => exact paired_outside paired commented inside stepped

theorem step_paired (paired : Paired text r) (stepped : r.step c rest = .ok next) :
    Paired (text ++ [c]) next := by
  by_cases backslash : c = '\\'
  · subst backslash
    exact paired_backslash paired stepped
  · have none_open := not_escape_of_step backslash paired stepped
    refine ⟨fun start mode => absurd mode (none_open start),
      fun start mode => absurd mode (none_open start), fun _ _ => ?_⟩
    rw [backslashes_concat, if_neg backslash]

theorem run_paired {front : List Char} (paired : Paired front r) (read : r.run text = .ok next) :
    Paired (front ++ text) next := by
  induction text generalizing r front with
  | nil =>
      cases read
      rwa [List.append_nil]
  | cons c rest ih =>
      obtain ⟨middle, stepped, read⟩ := bind_eq_ok.1 read
      rw [← List.singleton_append, ← List.append_assoc]
      exact ih (step_paired paired stepped) read

end Reader

/-- A text that ends in an escape outside classes ends in an odd number of backslashes. -/
theorem odd_of_escape {text : List Char} {r : Reader} {start : Position}
    (read : Reader.initial.run text = .ok r) (mode : r.mode = .escape start .sequence) :
    r.inComment = false ∧ backslashes text % 2 = 1 :=
  let paired := Reader.run_paired Reader.paired_initial read
  ⟨paired.awake start mode, paired.odd start mode⟩

end ScriptTypes.Pattern
