import ScriptTypes.Proofs.Pattern.Settling

namespace ScriptTypes.Pattern

open ScriptTypes.Text

namespace Reader

variable {r s next : Reader} {c : Char} {rest : List Char}

theorem observe_outside (outside : r.mode.inClass = false) (c : Char) : r.observe c = r := by
  unfold observe
  split
  · rename_i mode
    rw [mode] at outside
    cases outside
  · rfl

theorem observe_inClass (inside : r.mode.inClass = true) :
    (r.observe c).mode.inClass = true := by
  unfold observe
  split
  · rfl
  · exact inside

theorem Change.inClass {o o' : Outline} (change : Change c r o next o') (kept : c ≠ ']')
    (inside : r.mode.inClass = true) : next.mode.inClass = true := by
  cases change with
  | turn s beside mode => exact mode.inClass.trans inside
  | put s beside e made closes => exact absurd (closes inside) kept

theorem Changes.inClass {o : Outline} {x y : Except Fault Reader} (changes : Changes c r o x y)
    (kept : c ≠ ']') (inside : r.mode.inClass = true) (stepped : x = .ok next) :
    next.mode.inClass = true := by
  cases changes with
  | refuse fault => cases stepped
  | done change =>
      cases stepped
      exact change.inClass kept inside

theorem ItemStep.inClass {o : Outline} {x y : Except Fault Reader} (item : ItemStep c r o x y)
    (kept : c ≠ ']') (inside : r.mode.inClass = true) (stepped : x = .ok next) :
    next.mode.inClass = true := by
  cases item with
  | changes changes => exact changes.inClass kept inside stepped
  | sequence ready shape =>
      rw [ready] at inside
      cases inside

theorem stepMode_inClass (kept : c ≠ ']') (inside : r.mode.inClass = true)
    (stepped : r.stepMode c rest = .ok next) : next.mode.inClass = true := by
  cases modeStep r r.outline c rest with
  | item item => exact item.inClass kept inside stepped
  | settled first item => exact item.inClass kept (first.inClass kept inside) stepped
  | opened first item =>
      cases first with
      | plain s beside holds_none outside => exact absurd (outside.symm.trans inside) nofun
      | capture s outline captures name fresh names origin =>
          exact absurd (origin.outside.symm.trans inside) nofun

theorem step_inClass (kept : c ≠ ']') (inside : r.mode.inClass = true)
    (stepped : r.step c rest = .ok next) : next.mode.inClass = true := by
  cases step_taken stepped with
  | passed commented skips begun same =>
      rw [same]
      exact observe_inClass inside
  | read awake visible stepped => exact stepMode_inClass kept inside stepped

theorem run_inClass {text : List Char} (kept : ']' ∉ text) (inside : r.mode.inClass = true)
    (read : r.run text = .ok next) : next.mode.inClass = true :=
  run_keeps (P := fun s => s.mode.inClass = true)
    (fun member stepped inside =>
      step_inClass (ne_of_mem_of_not_mem member kept) inside stepped)
    read inside

theorem kept_outside (plain : c ≠ '[') : Mode.Kept c fun m => m.inClass = false where
  turn := fun turn outside => turn.inClass.trans outside
  first := by
    intro mode first
    cases first with
    | bracket start members same => exact absurd same plain
    | _ => rfl

theorem step_outside (plain : c ≠ '[') (outside : r.mode.inClass = false)
    (stepped : r.step c rest = .ok next) : next.mode.inClass = false := by
  cases step_taken stepped with
  | passed commented skips begun same =>
      rw [same, observe_outside outside]
      exact outside
  | read awake visible stepped => exact stepMode_kept (kept_outside plain) stepped outside

theorem settle_inClass (inside : r.mode.inClass = true) (settled : r.settle = .ok s) :
    s.mode.inClass = true :=
  (changes_settle r r.outline).inClass (by decide) inside settled

/-- A text cannot end inside a class. -/
theorem finish_inClass (inside : r.mode.inClass = true) (e : Expr) : r.finish ≠ .ok e := by
  intro finished
  obtain ⟨s, settled, ready, -⟩ := finish_eq_ok.1 finished
  have still := settle_inClass inside settled
  rw [ready] at still
  cases still

end Reader

end ScriptTypes.Pattern
