import ScriptTypes.Proofs.Pattern.Classes
import ScriptTypes.Proofs.Pattern.Meaningless

/-!
Readers that come to nothing. A part without meaning stays a part of what is being put together,
and takes the meaning from the pattern that the text spells in the end. So does a property that is
called by a character that stands in no name, from that character on.
-/

namespace ScriptTypes.Pattern

open ScriptTypes.Text

def levelParts (branches : Option Branches) (last : Sequence) : List Expr :=
  last.parts ++ branches.elim [] Branches.done

def Outline.parts (o : Outline) : List Expr :=
  levelParts o.branches o.sequence ++ o.frames.flatMap fun f => levelParts f.outerBranches f.outer

theorem meaningless_level {e : Expr} (hopeless : e.Meaningless) {branches : Option Branches}
    {last : Sequence} (member : e ∈ levelParts branches last) (stop : Position) :
    (closeLevel branches last stop).Meaningless := by
  rcases List.mem_append.1 member with inside | before
  · exact meaningless_closeLevel hopeless inside branches stop
  · cases branches with
    | none => cases before
    | some b => exact meaningless_branch hopeless before last stop

inductive Mode.Strange : Mode → Prop
  | letter {d : Char} (strange : d ∈ Unicode.nameless) (start : Position) (negated : Bool) :
      Strange (.propertyLetter start negated d .sequence)
  | name {d : Char} (strange : d ∈ Unicode.nameless) {name : List Char} (inside : d ∈ name)
      (start : Position) (negated : Bool) : Strange (.propertyName start negated name .sequence)

namespace Reader

variable {r s next : Reader} {c : Char} {rest text : List Char} {e : Expr}

/-- Whether something without meaning has been read, or waits for its repetition operator. -/
inductive Spoilt (r : Reader) : Prop
  | part {e : Expr} (member : e ∈ r.outline.parts) (hopeless : e.Meaningless)
  | target {e : Expr} (holds : r.mode.target? = some e) (hopeless : e.Meaningless)

def Hopeless (r : Reader) : Prop := r.Spoilt ∨ r.mode.Strange

theorem spoilt_push (hopeless : e.Meaningless) : (r.push e).Spoilt :=
  .part List.mem_cons_self hopeless

theorem Spoilt.exists_part (spoilt : r.Spoilt) (holds_none : r.mode.target? = none) :
    ∃ e ∈ r.outline.parts, e.Meaningless := by
  cases spoilt with
  | part member hopeless => exact ⟨_, member, hopeless⟩
  | target holds => exact absurd (holds_none.symm.trans holds) nofun

theorem Change.spoilt {o o' : Outline} (change : Change c r o next o') (spoilt : r.Spoilt) :
    next.Spoilt := by
  cases change with
  | turn s beside mode =>
      cases spoilt with
      | part member hopeless => exact .part (beside.outline ▸ member) hopeless
      | target holds hopeless =>
          rcases mode.carries with same | ⟨holds_none, -⟩
          · exact .target (same.trans holds) hopeless
          · exact absurd (holds_none.symm.trans holds) nofun
  | put s beside e made closes =>
      cases spoilt with
      | part member hopeless =>
          rw [← beside.outline] at member
          exact .part (r := s.push e) (List.mem_cons_of_mem e member) hopeless
      | target holds hopeless =>
          cases made with
          | item holds_none => exact absurd (holds_none.symm.trans holds) nofun
          | repetition own span low high greedy =>
              cases own.symm.trans holds
              exact spoilt_push (meaningless_repetition hopeless span low high greedy)

theorem Changes.spoilt {o : Outline} {x y : Except Fault Reader} (changes : Changes c r o x y)
    (spoilt : r.Spoilt) (stepped : x = .ok next) : next.Spoilt := by
  cases changes with
  | refuse fault => cases stepped
  | done change =>
      cases stepped
      exact change.spoilt spoilt

theorem Opens.spoilt {o o' : Outline} (opens : Opens c r o next o') (spoilt : r.Spoilt) :
    next.Spoilt := by
  cases opens with
  | plain s beside holds_none =>
      obtain ⟨e, member, hopeless⟩ := spoilt.exists_part holds_none
      rw [← beside.outline] at member
      exact .part (e := e) member hopeless
  | capture s outline captures name fresh names origin =>
      obtain ⟨e, member, hopeless⟩ := spoilt.exists_part origin.holds_none
      rw [← outline] at member
      exact .part (e := e) member hopeless

theorem mem_of_takeTarget {target : Expr} (taken : r.takeTarget = .ok (target, next))
    (member : e ∈ r.outline.parts) : e = target ∨ e ∈ next.outline.parts := by
  unfold takeTarget at taken
  split at taken
  · rename_i last parts sequence
    split at taken
    · cases taken
      have whole : r.outline.parts =
          target :: ({ r with sequence := { r.sequence with parts } } : Reader).outline.parts := by
        simp [Outline.parts, outline, levelParts, sequence]
      rw [whole] at member
      exact List.mem_cons.1 member
    · cases taken
  · cases taken

theorem spoilt_takeTarget {target : Expr} (member : e ∈ r.outline.parts)
    (hopeless : e.Meaningless) (taken : r.takeTarget = .ok (target, next)) {mode : Mode}
    (holds : mode.target? = some target) : (next.become c mode).Spoilt := by
  rcases mem_of_takeTarget taken member with rfl | left
  · exact .target holds hopeless
  · exact .part (r := next.become c mode) left hopeless

theorem spoilt_closeGroup (member : e ∈ r.outline.parts) (hopeless : e.Meaningless)
    (closed : r.closeGroup c = .ok next) : next.Spoilt := by
  unfold closeGroup at closed
  split at closed
  · cases closed
  · rename_i frame frames split_frames
    cases closed
    simp only [Outline.parts, outline, split_frames, List.flatMap_cons, List.mem_append] at member
    rcases member with level | around | outer
    · have group := meaningless_group (meaningless_level hopeless level r.position)
      exact .part (List.mem_append_left _ List.mem_cons_self) (group _ _)
    · exact .part (List.mem_append_left _ (List.mem_cons_of_mem _ around)) hopeless
    · exact .part (List.mem_append_right _ outer) hopeless

theorem parts_closeBranch :
    (r.closeBranch c).outline.parts = r.sequence.close r.position ::
      (r.branches.elim [] Branches.done ++
        r.frames.flatMap fun f => levelParts f.outerBranches f.outer) := by
  unfold closeBranch
  cases branches : r.branches <;> simp [Outline.parts, outline, levelParts]

theorem spoilt_closeBranch (member : e ∈ r.outline.parts) (hopeless : e.Meaningless) :
    (r.closeBranch c).Spoilt := by
  simp only [Outline.parts, outline, levelParts, List.append_assoc] at member
  rcases List.mem_append.1 member with last | before
  · have branch := meaningless_close hopeless last r.position
    exact .part (parts_closeBranch ▸ List.mem_cons_self) branch
  · exact .part (parts_closeBranch ▸ List.mem_cons_of_mem _ before) hopeless

theorem SequenceStep.spoilt {step : Reader → Except Fault Reader} (shape : SequenceStep c step)
    (ready : r.mode = .sequence) (spoilt : r.Spoilt) (stepped : step r = .ok next) :
    next.Spoilt := by
  obtain ⟨e, member, hopeless⟩ := spoilt.exists_part (by rw [ready]; rfl)
  cases shape with
  | opens => cases stepped; exact .part (e := e) member hopeless
  | closes => exact spoilt_closeGroup member hopeless stepped
  | bar => cases stepped; exact spoilt_closeBranch member hopeless
  | bracket => cases stepped; exact .part (e := e) member hopeless
  | quantifier low high =>
      obtain ⟨⟨target, left⟩, took, result⟩ := bind_eq_ok.1 stepped
      cases result
      exact spoilt_takeTarget member hopeless took rfl
  | brace =>
      obtain ⟨⟨target, left⟩, took, result⟩ := bind_eq_ok.1 stepped
      cases result
      exact spoilt_takeTarget member hopeless took rfl
  | escape => cases stepped; exact .part (e := e) member hopeless
  | item make =>
      cases stepped
      exact .part (e := e) (List.mem_cons_of_mem _ member) hopeless

theorem ItemStep.spoilt {o : Outline} {x y : Except Fault Reader} (item : ItemStep c r o x y)
    (spoilt : r.Spoilt) (stepped : x = .ok next) : next.Spoilt := by
  cases item with
  | changes changes => exact changes.spoilt spoilt stepped
  | sequence ready shape => exact shape.spoilt ready spoilt stepped

theorem stepMode_spoilt (spoilt : r.Spoilt) (stepped : r.stepMode c rest = .ok next) :
    next.Spoilt := by
  cases modeStep r r.outline c rest with
  | item item => exact item.spoilt spoilt stepped
  | settled first item => exact item.spoilt (first.spoilt spoilt) stepped
  | opened first item => exact item.spoilt (first.spoilt spoilt) stepped

theorem Spoilt.observe (spoilt : r.Spoilt) (c : Char) (inComment : Bool) :
    { (r.observe c).pass c with inComment }.Spoilt := by
  have outline : (r.observe c).outline = r.outline := by
    unfold Reader.observe
    split <;> rfl
  have holds : (r.observe c).mode.target? = r.mode.target? := by
    unfold Reader.observe
    split
    · rename_i mode
      rw [mode]
      rfl
    · rfl
  cases spoilt with
  | part member hopeless => exact .part (outline ▸ member) hopeless
  | target own hopeless => exact .target (holds.trans own) hopeless

theorem step_spoilt (spoilt : r.Spoilt) (stepped : r.step c rest = .ok next) : next.Spoilt := by
  cases step_taken stepped with
  | passed commented skips begun same =>
      rw [same]
      exact spoilt.observe c commented
  | read awake visible stepped => exact stepMode_spoilt spoilt stepped

theorem stepItem_spoilt (spoilt : s.Spoilt) (ready : s.mode = .sequence)
    (stepped : s.stepItem c rest = .ok next) : next.Spoilt :=
  (itemStep_ready (o := s.outline) ready).spoilt spoilt stepped

theorem stepMode_strange (strange : r.mode.Strange) (stepped : r.stepMode c rest = .ok next) :
    next.Hopeless := by
  generalize own : r.mode = mode at strange
  cases strange with
  | letter strange start negated =>
      simp only [stepMode, own] at stepped
      obtain ⟨s, delivered, stepped⟩ := bind_eq_ok.1 stepped
      cases delivered
      have hopeless := meaningless_property (Unicode.set_letter_nameless strange)
      exact .inl (stepItem_spoilt (spoilt_push (hopeless _ _)) rfl stepped)
  | @name d strange name inside start negated =>
      simp only [stepMode, own, stepPropertyName] at stepped
      split at stepped
      · obtain ⟨s, delivered, stepped⟩ := bind_eq_ok.1 stepped
        cases delivered
        cases stepped
        obtain ⟨failure, unlisted⟩ := set_propertyQuery strange (List.mem_reverse.2 inside)
        have hopeless := meaningless_property unlisted
        exact .inl (.part List.mem_cons_self (hopeless _ _))
      · cases stepped
        exact .inr (.name strange (List.mem_cons_of_mem c inside) start negated)

theorem step_strange (strange : r.mode.Strange) (stepped : r.step c rest = .ok next) :
    next.Hopeless := by
  have outside : r.mode.inClass = false := by
    generalize r.mode = mode at strange
    cases strange <;> rfl
  cases step_taken stepped with
  | passed commented skips begun same =>
      rw [same, observe_outside outside]
      exact .inr strange
  | read awake visible stepped => exact stepMode_strange strange stepped

theorem step_hopeless (hopeless : r.Hopeless) (stepped : r.step c rest = .ok next) :
    next.Hopeless := by
  rcases hopeless with spoilt | strange
  · exact .inl (step_spoilt spoilt stepped)
  · exact step_strange strange stepped

theorem run_hopeless (hopeless : r.Hopeless) (read : r.run text = .ok next) : next.Hopeless :=
  run_keeps (fun _ stepped hopeless => step_hopeless hopeless stepped) read hopeless

theorem settle_hopeless (hopeless : r.Hopeless) (settled : r.settle = .ok s)
    (ready : s.mode = .sequence) : s.Spoilt := by
  rcases hopeless with spoilt | strange
  · exact (changes_settle r r.outline).spoilt spoilt settled
  · generalize own : r.mode = mode at strange
    cases strange with
    | letter strange start negated =>
        simp only [settle, own] at settled
        cases settled
        exact spoilt_push (meaningless_property (Unicode.set_letter_nameless strange) _ _)
    | name =>
        simp only [settle, own] at settled
        cases settled
        cases own.symm.trans ready

/-- A text behind which a reader can come to nothing has no meaning. -/
theorem finish_hopeless (hopeless : r.Hopeless) (finished : r.finish = .ok e) : e.Meaningless := by
  obtain ⟨s, settled, ready, closed, rfl⟩ := finish_eq_ok.1 finished
  have spoilt := settle_hopeless hopeless settled ready
  obtain ⟨part, member, lost⟩ := spoilt.exists_part (by rw [ready]; rfl)
  simp only [Outline.parts, outline, closed, List.flatMap_nil, List.append_nil] at member
  exact meaningless_level lost member s.position

end Reader

end ScriptTypes.Pattern
