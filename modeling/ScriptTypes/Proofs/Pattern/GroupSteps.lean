import ScriptTypes.Proofs.Pattern.Keeping

namespace ScriptTypes.Pattern

open ScriptTypes.Text

namespace Reader

variable {r s next : Reader} {c : Char} {rest : List Char}

theorem SameGroups.trans {middle : Reader} (first : SameGroups r middle)
    (last : SameGroups middle next) : SameGroups r next :=
  ⟨last.openings.trans first.openings, last.captures.trans first.captures,
    last.names.trans first.names⟩

theorem OneMore.trans_same {middle : Reader} {place : Position} {name : Option String}
    (first : OneMore r middle place name) (last : SameGroups middle next) :
    OneMore r next place name where
  openings := last.openings.trans first.openings
  captures := last.captures.trans first.captures
  fresh := first.fresh
  names := by rw [last.names, first.names]

theorem same_takeTarget (calm : r.mode.openings = []) {target : Expr} {taken : Reader}
    (took : r.takeTarget = .ok (target, taken)) (mode : Mode)
    (holds : mode.target? = some target) : SameGroups r (taken.become c mode) := by
  obtain ⟨settled, captures, names, -⟩ := takeTarget_openings took
  have held : mode.openings = target.openings := by rw [Mode.openings, holds]; rfl
  refine ⟨?_, captures, names⟩
  rw [openings_of_calm calm, ← settled, ← held]
  rfl

theorem SequenceStep.same {step : Reader → Except Fault Reader} (shape : SequenceStep c step)
    (calm : r.mode.openings = []) (stepped : step r = .ok next) : SameGroups r next := by
  cases shape with
  | closes => exact same_closeGroup calm stepped
  | quantifier low high =>
      obtain ⟨⟨target, left⟩, took, result⟩ := bind_eq_ok.1 stepped
      cases result
      exact same_takeTarget calm took _ rfl
  | brace =>
      obtain ⟨⟨target, left⟩, took, result⟩ := bind_eq_ok.1 stepped
      cases result
      exact same_takeTarget calm took _ rfl
  | opens =>
      cases stepped
      exact same_become calm _ rfl
  | bar =>
      cases stepped
      exact same_closeBranch calm
  | bracket =>
      cases stepped
      exact same_of_settled calm rfl rfl rfl rfl
  | escape =>
      cases stepped
      exact same_become calm _ rfl
  | item make =>
      cases stepped
      exact (same_push calm (.atom (make r.position)) rfl).trans same_pass

theorem same_observe : SameGroups r (r.observe c) := by
  unfold observe
  split
  · rename_i dashed
    exact same_of_settled (by rw [dashed]; rfl) rfl rfl rfl rfl
  · exact ⟨rfl, rfl, rfl⟩

theorem closeHex_deliver {start digits : Position} {width : HexWidth} {read : List Char}
    {place : Place} (closed : r.closeHex start digits width read place = .ok next) :
    ∃ item, r.deliver place item = .ok next := by
  unfold closeHex at closed
  split at closed
  · exact ⟨_, closed⟩
  · cases closed

theorem closeHexBrace_deliver {start brace digits stop : Position} {read : List Char}
    {place : Place} (closed : r.closeHexBrace start brace digits stop read place = .ok next) :
    ∃ item, r.deliver place item = .ok next := by
  unfold closeHexBrace at closed
  split at closed
  · cases closed
  split at closed
  · exact ⟨_, closed⟩
  · cases closed

theorem settledOpenings_of_outline (same : s.outline = r.outline) :
    s.settledOpenings = r.settledOpenings :=
  congrArg
    (fun o : Outline =>
      o.frames.reverse.flatMap Frame.openings ++ levelOpenings o.branches o.sequence)
    same

theorem Change.same {o o' : Outline} (change : Change c r o next o') : SameGroups r next := by
  cases change with
  | turn s beside mode =>
      refine ⟨?_, beside.captures, beside.names⟩
      rw [openings, settledOpenings_of_outline beside.outline, mode.carries.openings]
      rfl
  | put s beside e made closes =>
      refine ⟨?_, beside.captures, beside.names⟩
      rw [openings_of_calm rfl, settledOpenings_push, settledOpenings_of_outline beside.outline,
        made.openings]
      rfl

theorem Changes.same {o : Outline} {x y : Except Fault Reader} (changes : Changes c r o x y)
    (stepped : x = .ok next) : SameGroups r next := by
  cases changes with
  | refuse fault => cases stepped
  | done change =>
      cases stepped
      exact change.same

theorem ItemStep.same {o : Outline} {x y : Except Fault Reader} (item : ItemStep c r o x y)
    (stepped : x = .ok next) : SameGroups r next := by
  cases item with
  | changes changes => exact changes.same stepped
  | sequence ready shape => exact shape.same (by rw [ready]; rfl) stepped

theorem Opens.same_or_more {o o' : Outline} (opens : Opens c r o next o') :
    SameGroups r next ∨ ∃ opening name, r.mode.Names c opening name ∧
      OneMore r next opening.start name := by
  cases opens with
  | plain s beside holds_none outside opening changes =>
      refine .inl (same_of_settled (Mode.openings_of_none holds_none) rfl ?_ beside.captures
        beside.names)
      rw [settledOpenings_openGroup, settledOpenings_of_outline beside.outline]
      exact List.append_nil _
  | @capture s outline captures name fresh names opening origin =>
      have calm : r.mode.openings = [] := Mode.openings_of_none origin.holds_none
      refine .inr ⟨opening, name, origin, ?_, congrArg (· + 1) captures, fresh, names⟩
      rw [openings_openCapture, settledOpenings_of_outline outline, openings_of_calm calm, captures]

/-- A character opens at most one group, and only if the mode has read the opening. -/
theorem stepMode_grows (stepped : r.stepMode c rest = .ok next) :
    SameGroups r next ∨ ∃ opening name, r.mode.Names c opening name ∧
      OneMore r next opening.start name := by
  cases modeStep r r.outline c rest with
  | item item => exact .inl (item.same stepped)
  | settled first item => exact .inl (first.same.trans (item.same stepped))
  | opened first item =>
      rcases first.same_or_more with same | ⟨opening, name, origin, more⟩
      · exact .inl (same.trans (item.same stepped))
      · exact .inr ⟨opening, name, origin, more.trans_same (item.same stepped)⟩

theorem step_grows (stepped : r.step c rest = .ok next) :
    SameGroups r next ∨ ∃ opening name, r.mode.Names c opening name ∧
      OneMore r next opening.start name := by
  cases step_taken stepped with
  | passed commented skips begun same =>
      subst same
      exact .inl ⟨same_observe.openings, same_observe.captures, same_observe.names⟩
  | read awake visible stepped => exact stepMode_grows stepped

/-- The groups opened so far stay, and come first. -/
theorem openings_run {text : List Char} (read : r.run text = .ok next) :
    r.openings <+: next.openings := by
  refine run_keeps (P := fun s => r.openings <+: s.openings) ?_ read (List.prefix_refl _)
  intro s next c rest _ stepped earlier
  rcases step_grows stepped with same | ⟨opening, name, -, more⟩
  · rwa [same.openings]
  · rw [more.openings]
    exact earlier.trans (List.prefix_append _ _)

theorem groups_run {text : List Char} (read : r.run text = .ok next) : r.groups <+: next.groups :=
  (openings_run read).map Prod.snd

end Reader

end ScriptTypes.Pattern
