import ScriptTypes.Proofs.Pattern.Steps

namespace ScriptTypes.Pattern

open ScriptTypes.Text

inductive FirstMode (c : Char) : Mode → Prop
  | sequence : FirstMode c .sequence
  | opening (opening : Span) (same : c = '(') : FirstMode c (.groupOpen opening)
  | bracket (start : Position) (members : Members) (same : c = '[') :
      FirstMode c (.classOpen start .bracket false members)
  | escape (start : Position) (same : c = '\\') : FirstMode c (.escape start .sequence)
  | quantifier (low : Nat) (high : Option Nat) (target : Expr) :
      FirstMode c (.quantifier low high target)
  | count (start : Position) (target : Expr) (phase : CountPhase) :
      FirstMode c (.count start target phase)

structure Mode.Kept (c : Char) (P : Mode → Prop) : Prop where
  turn : ∀ {old next : Mode}, old.Turn c next → P old → P next
  first : ∀ {mode : Mode}, FirstMode c mode → P mode

namespace Reader

variable {r s next : Reader} {c : Char} {rest text : List Char} {P : Mode → Prop}

theorem SequenceStep.first {step : Reader → Except Fault Reader} (shape : SequenceStep c step)
    (ready : r.mode = .sequence) (stepped : step r = .ok next) : FirstMode c next.mode := by
  cases shape with
  | opens same =>
      cases stepped
      exact .opening _ same
  | closes =>
      dsimp only [closeGroup] at stepped
      split at stepped
      · cases stepped
      · cases stepped
        exact .sequence
  -- a bar puts the branch away and leaves the mode alone
  | bar =>
      cases stepped
      rw [show (r.closeBranch c).mode = .sequence from ready]
      exact .sequence
  | bracket same =>
      cases stepped
      exact .bracket _ _ same
  | quantifier low high =>
      obtain ⟨taken, -, result⟩ := bind_eq_ok.1 stepped
      cases result
      exact .quantifier _ _ _
  | brace =>
      obtain ⟨taken, -, result⟩ := bind_eq_ok.1 stepped
      cases result
      exact .count _ _ _
  | escape same =>
      cases stepped
      exact .escape _ same
  | item make =>
      cases stepped
      exact .sequence

theorem Change.kept {o o' : Outline} (kept : Mode.Kept c P) (change : Change c r o next o')
    (holds : P r.mode) : P next.mode := by
  cases change with
  | turn s beside mode => exact kept.turn mode holds
  | put s beside e made closes => exact kept.first .sequence

theorem ItemStep.kept {o : Outline} {x y : Except Fault Reader} (kept : Mode.Kept c P)
    (item : ItemStep c r o x y) (stepped : x = .ok next) (holds : P r.mode) : P next.mode := by
  cases item with
  | changes changes =>
      cases changes with
      | refuse fault => cases stepped
      | done change =>
          cases stepped
          exact change.kept kept holds
  | sequence ready shape => exact kept.first (shape.first ready stepped)

theorem Opens.ready {o o' : Outline} (opens : Opens c r o next o') : next.mode = .sequence := by
  cases opens <;> rfl

theorem stepMode_kept (kept : Mode.Kept c P) (stepped : r.stepMode c rest = .ok next)
    (holds : P r.mode) : P next.mode := by
  cases modeStep r r.outline c rest with
  | item item => exact item.kept kept stepped holds
  | settled first item => exact item.kept kept stepped (first.kept kept holds)
  | opened first item =>
      refine item.kept kept stepped ?_
      rw [first.ready]
      exact kept.first .sequence

inductive Taken (r : Reader) (c : Char) (rest : List Char) (next : Reader) : Prop
  | passed (commented : Bool)
      (skips : r.inComment = true ∨
        r.spaced = true ∧ r.mode.passesBlanks = true ∧ (isBlank c = true ∨ c = '#'))
      (begun : commented = true → r.inComment = true ∨ c = '#')
      (same : next = { (r.observe c).pass c with inComment := commented })
  | read (awake : r.inComment = false)
      (visible : (r.spaced && r.mode.passesBlanks && isBlank c) = false)
      (stepped : r.stepMode c rest = .ok next)

theorem observe_inComment (r : Reader) (c : Char) : (r.observe c).inComment = r.inComment := by
  unfold observe
  split <;> rfl

theorem step_taken (stepped : r.step c rest = .ok next) : Taken r c rest next := by
  unfold step at stepped
  split at stepped
  · rename_i commented
    cases stepped
    exact .passed _ (.inl commented) (fun _ => .inl commented) rfl
  rename_i awake
  split at stepped
  · rename_i blank
    simp only [Bool.and_eq_true] at blank
    obtain ⟨⟨spaced, passes⟩, blank⟩ := blank
    cases stepped
    refine .passed (r.observe c).inComment (.inr ⟨spaced, passes, .inl blank⟩) (fun begun => ?_) rfl
    exact .inl ((r.observe_inComment c).symm.trans begun)
  rename_i visible
  split at stepped
  · rename_i sign
    simp only [Bool.and_eq_true, decide_eq_true_eq] at sign
    obtain ⟨⟨spaced, passes⟩, sign⟩ := sign
    cases stepped
    exact .passed true (.inr ⟨spaced, passes, .inr sign⟩) (fun _ => .inr sign) rfl
  · exact .read (Bool.eq_false_iff.2 awake) (Bool.eq_false_iff.2 visible) stepped

/-- What every character of a text keeps, the text keeps. -/
theorem run_keeps {P : Reader → Prop}
    (keeps : ∀ {r next : Reader} {c : Char} {rest : List Char}, c ∈ text →
      r.step c rest = .ok next → P r → P next)
    (read : r.run text = .ok next) (holds : P r) : P next := by
  induction text generalizing r with
  | nil =>
      cases read
      exact holds
  | cons c rest ih =>
      obtain ⟨middle, stepped, read⟩ := bind_eq_ok.1 read
      have kept := keeps List.mem_cons_self stepped holds
      exact ih (fun member => keeps (List.mem_cons_of_mem c member)) read kept

end Reader

end ScriptTypes.Pattern
