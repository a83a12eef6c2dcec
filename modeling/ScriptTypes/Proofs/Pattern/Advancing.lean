import ScriptTypes.Proofs.Pattern.Foreign

/-!
Reading outside classes. Each character moves the reader to the place behind it, whatever it does
else, and only a number sign begins a comment. So a text without brackets and number signs is read
outside classes and comments, and the reader stands at the place behind what it has read.
-/

namespace ScriptTypes.Pattern

open ScriptTypes.Text

namespace Reader

variable {r s next : Reader} {c : Char} {rest : List Char} {x : Except Fault Reader}

structure Still (r s : Reader) : Prop where
  position : s.position = r.position
  inComment : s.inComment = r.inComment

/-- Whether a reader stands behind a character, and in a comment only if it began one. -/
structure Advances (c : Char) (r next : Reader) : Prop where
  position : next.position = r.position.after c
  awake : r.inComment = false → c ≠ '#' → next.inComment = false

def Moves (c : Char) (r : Reader) (x : Except Fault Reader) : Prop :=
  ∀ next, x = .ok next → Advances c r next

theorem moves_error (fault : Fault) : Moves c r (.error fault) := by
  rintro _ ⟨⟩

theorem moves_fail (cause : Cause) (span : Span) : Moves c r (fail cause span) := moves_error _

theorem moves_ok (advances : Advances c r s) : Moves c r (.ok s) := by
  rintro _ ⟨⟩
  exact advances

theorem moves_become (mode : Mode) : Moves c r (.ok (r.become c mode)) := moves_ok ⟨rfl, fun awake _ => awake⟩

theorem moves_bind {α : Type} {made : Except Fault α} {f : α → Except Fault Reader}
    (moves : ∀ a, made = .ok a → Moves c r (f a)) : Moves c r (made >>= f) := by
  intro next stepped
  obtain ⟨a, outcome, stepped⟩ := bind_eq_ok.1 stepped
  exact moves a outcome next stepped

theorem Still.moves (still : Still r s) (moves : Moves c s x) : Moves c r x := by
  intro next stepped
  obtain ⟨position, awake⟩ := moves next stepped
  exact ⟨by rw [position, still.position], fun before => awake (still.inComment.trans before)⟩

theorem Still.moves_pass (still : Still r s) : Moves c r (.ok (s.pass c)) :=
  still.moves (moves_ok ⟨rfl, fun awake _ => awake⟩)

theorem still_push (e : Expr) : Still r (r.push e) := ⟨rfl, rfl⟩

theorem still_takeTarget {target : Expr} (taken : r.takeTarget = .ok (target, s)) : Still r s := by
  unfold takeTarget at taken
  split at taken
  · split at taken
    · cases taken
      exact ⟨rfl, rfl⟩
    · cases taken
  · cases taken

theorem still_pushCounted {start : Position} {low : Nat} {high : Option Nat} {greedy : Bool}
    {target : Expr} (pushed : r.pushCounted start low high greedy target = .ok s) :
    Still r s ∧ s.mode = .sequence := by
  unfold pushCounted at pushed
  split at pushed
  · cases pushed
  · cases pushed
    exact ⟨still_push _, rfl⟩

theorem still_settle (settled : r.settle = .ok s) (ready : s.mode = .sequence) : Still r s := by
  rcases settle_eq settled ready with rfl | ⟨item, rfl⟩
  · exact ⟨rfl, rfl⟩
  · exact still_push item

theorem moves_deliver_pass (item : Atom) :
    Moves c r (do return (← r.deliver .sequence item).pass c) :=
  (still_push (.atom item)).moves_pass

theorem SequenceStep.moves {step : Reader → Except Fault Reader} (shape : SequenceStep c step) :
    Moves c r (step r) := by
  cases shape with
  | opens => exact moves_become _
  | closes =>
      dsimp only [closeGroup]
      split
      · exact moves_fail _ _
      · exact moves_ok ⟨rfl, fun awake _ => awake⟩
  | bar => exact moves_ok ⟨rfl, fun awake _ => awake⟩
  | bracket => exact moves_ok ⟨rfl, fun awake _ => awake⟩
  | quantifier low high =>
      exact moves_bind fun taken took => (still_takeTarget took).moves (moves_become _)
  | brace => exact moves_bind fun taken took => (still_takeTarget took).moves (moves_become _)
  | escape => exact moves_become _
  | item make => exact (still_push _).moves_pass

theorem moves_item (ready : s.mode = .sequence) (still : Still r s) (rest : List Char) :
    Moves c r (s.stepItem c rest) := by
  unfold stepItem
  split
  · exact still.moves_pass
  split
  · rename_i comment
    have sign : c = '#' := by simpa using (Bool.and_eq_true_iff.1 comment).2
    exact still.moves (moves_ok ⟨rfl, fun _ => absurd sign⟩)
  simp only [ready]
  exact still.moves (sequenceStep c).moves

theorem moves_count (start : Position) (target : Expr) (phase : CountPhase) :
    Moves c r (r.stepCount start target phase c) := by
  have high (low : Nat) (number : Decimal) (cause : Cause) (span : Span) :
      Moves c r (stepCount.stepHigh r c low number (fail cause span)
        (fun phase => .ok (r.become c (.count start target phase)))
        (fun low high => .ok (r.become c (.counted start low high target)))) := by
    unfold stepCount.stepHigh
    split
    · exact moves_become _
    · refine moves_bind fun high _ => ?_
      split
      · exact moves_become _
      · exact moves_fail _ _
  unfold stepCount
  dsimp only
  split
  · split
    · exact moves_become _
    split
    · exact moves_become _
    · refine moves_bind fun low _ => ?_
      split
      · exact moves_become _
      · exact moves_fail _ _
  · refine moves_bind fun low _ => ?_
    split
    · exact moves_become _
    · exact high _ _ _ _
  · exact high _ _ _ _

theorem moves_escape (start : Position) : Moves c r (r.stepEscape start .sequence c) := by
  unfold stepEscape
  dsimp only
  split
  · exact moves_fail _ _
  split
  · exact moves_become _
  split
  · exact moves_become _
  split
  · exact moves_deliver_pass _
  split
  · exact moves_deliver_pass _
  split
  · exact moves_deliver_pass _
  split
  · exact moves_deliver_pass _
  split
  · exact moves_become _
  · exact moves_fail _ _

theorem moves_wordEdgeOpen (start brace : Position) :
    Moves c r (r.stepWordEdgeOpen start brace .sequence c) := by
  unfold stepWordEdgeOpen
  split
  · exact moves_become _
  · refine moves_bind fun closed delivered => moves_bind fun taken took => ?_
    cases delivered
    exact (still_push _).moves ((still_takeTarget took).moves (moves_count brace _ _))

theorem moves_wordEdgeName (start brace content : Position) (name : List Char) :
    Moves c r (r.stepWordEdgeName start brace content name .sequence c) := by
  unfold stepWordEdgeName
  split
  · exact moves_become _
  split
  · split
    · exact moves_deliver_pass _
    · exact moves_fail _ _
  · exact moves_fail _ _

theorem moves_hexDigit (start digits : Position) (width : HexWidth) (read : List Char)
    (place : Place) : Moves c r (r.stepHexDigit start digits width read place c) := by
  unfold stepHexDigit
  split
  · exact moves_fail _ _
  split
  · exact moves_become _
  · exact moves_become _

theorem moves_hexBrace (start brace : Position) (read : List Char) (place : Place) :
    Moves c r (r.stepHexBrace start brace read place c) := by
  unfold stepHexBrace
  split
  · exact moves_become _
  split
  · exact moves_fail _ _
  · exact moves_become _

theorem moves_groupName (opening : Span) (start : Position) (name : List Char) :
    Moves c r (r.stepGroupName opening start name c) := by
  unfold stepGroupName
  split
  · dsimp only
    split
    · exact moves_fail _ _
    split
    · exact moves_error _
    · exact moves_ok ⟨rfl, fun awake _ => awake⟩
  by_cases allowed : (if name.isEmpty then isNameStart c else isNamePart c) = true
  · rw [if_pos allowed]
    exact moves_become _
  · rw [if_neg allowed]
    exact moves_fail _ _

theorem moves_groupFlags (opening : Span) (inner : Position) (items : List FlagItem) :
    Moves c r (r.stepGroupFlags opening inner items c) := by
  unfold stepGroupFlags
  dsimp only
  split
  · split
    · exact moves_fail _ _
    split
    · exact moves_ok ⟨rfl, fun awake _ => awake⟩
    split
    · exact moves_fail _ _
    · exact moves_ok ⟨rfl, fun awake _ => awake⟩
  split
  · split
    · exact moves_error _
    · exact moves_become _
  split
  · split
    · exact moves_error _
    · exact moves_become _
  · exact moves_fail _ _

theorem moves_groupMark (opening : Span) (inner : Position) :
    Moves c r (r.stepGroupMark opening inner c) := by
  unfold stepGroupMark
  split
  · exact moves_fail _ _
  split
  · exact moves_become _
  split
  · exact moves_become _
  · exact moves_groupFlags _ _ _

theorem moves_groupAngle (opening : Span) : Moves c r (r.stepGroupAngle opening c) := by
  unfold stepGroupAngle
  split
  · exact moves_fail _ _
  · exact moves_groupName _ _ _

theorem moves_propertyOpen (start : Position) (negated : Bool) (place : Place) :
    Moves c r (r.stepPropertyOpen start negated place c) := by
  unfold stepPropertyOpen
  split
  · exact moves_become _
  split
  · exact moves_fail _ _
  · exact moves_become _

theorem moves_propertyName (start : Position) (negated : Bool) (name : List Char) :
    Moves c r (r.stepPropertyName start negated name .sequence c) := by
  unfold stepPropertyName
  split
  · exact moves_deliver_pass _
  · exact moves_become _

theorem stepMode_moves (outside : r.mode.inClass = false) :
    Moves c r (r.stepMode c rest) := by
  have outside_mode {mode : Mode} (same : r.mode = mode) : mode.inClass = false := same ▸ outside
  unfold stepMode
  cases mode : r.mode with
  | sequence => exact (sequenceStep c).moves
  | quantifier low high target =>
      dsimp only
      split
      · exact moves_ok ⟨rfl, fun awake _ => awake⟩
      · exact moves_item rfl (still_push _) rest
  | count start target phase => exact moves_count _ _ _
  | counted start low high target =>
      dsimp only
      split
      · intro next pushed
        obtain ⟨still, -⟩ := still_pushCounted pushed
        exact ⟨still.position, fun awake _ => still.inComment.trans awake⟩
      -- the repetition is put in the sequence first, and the character is then read as an item
      · refine moves_bind fun s pushed => ?_
        obtain ⟨still, ready⟩ := still_pushCounted pushed
        exact moves_item ready still rest
  | groupOpen opening =>
      dsimp only
      split
      · exact moves_become _
      · have still : Still r (r.openCapture opening none) := ⟨rfl, rfl⟩
        exact moves_item rfl still rest
  | groupMark opening inner => exact moves_groupMark _ _
  | groupLetter letter opening =>
      dsimp only
      split
      · exact moves_become _
      · exact moves_fail _ _
  | groupAngle opening => exact moves_groupAngle _
  | groupName opening start name => exact moves_groupName _ _ _
  | groupFlags opening inner items => exact moves_groupFlags _ _ _
  | escape start place =>
      obtain rfl := place_of_outside (outside_mode mode)
      exact moves_escape start
  | wordEdge start place =>
      obtain rfl := place_of_outside (outside_mode mode)
      dsimp only
      split
      · exact moves_become _
      · refine moves_bind fun s delivered => ?_
        cases delivered
        exact moves_item rfl (still_push _) rest
  | wordEdgeOpen start brace place =>
      obtain rfl := place_of_outside (outside_mode mode)
      exact moves_wordEdgeOpen _ _
  | wordEdgeName start brace content name place =>
      obtain rfl := place_of_outside (outside_mode mode)
      exact moves_wordEdgeName _ _ _ _
  | hexOpen start width place =>
      dsimp only
      split
      · exact moves_become _
      · exact moves_hexDigit _ _ _ _ _
  | hexDigits start digits width read place => exact moves_hexDigit _ _ _ _ _
  | hexEnd start digits width read place =>
      obtain rfl := place_of_outside (outside_mode mode)
      refine moves_bind fun s closed => ?_
      obtain ⟨item, delivered⟩ := closeHex_deliver closed
      cases delivered
      exact moves_item rfl (still_push _) rest
  | hexBrace start brace read place => exact moves_hexBrace _ _ _ _
  | hexBraceEnd start brace digits stop read place =>
      obtain rfl := place_of_outside (outside_mode mode)
      refine moves_bind fun s closed => ?_
      obtain ⟨item, delivered⟩ := closeHexBrace_deliver closed
      cases delivered
      exact moves_item rfl (still_push _) rest
  | propertyOpen start negated place => exact moves_propertyOpen _ _ _
  | propertyName start negated name place =>
      obtain rfl := place_of_outside (outside_mode mode)
      exact moves_propertyName _ _ _
  | propertyLetter start negated letter place =>
      obtain rfl := place_of_outside (outside_mode mode)
      refine moves_bind fun s delivered => ?_
      cases delivered
      exact moves_item rfl (still_push _) rest
  | classOpen start opening negated members => cases outside_mode mode
  | member => cases outside_mode mode
  | memberEnd item => cases outside_mode mode
  | dash item place adjacent verdict => cases outside_mode mode
  | doubled c place => cases outside_mode mode
  | asciiClass left item => cases outside_mode mode

theorem step_moves (outside : r.mode.inClass = false) : Moves c r (r.step c rest) := by
  intro next stepped
  cases step_taken stepped with
  | passed commented skips begun same =>
      rw [same, observe_outside outside]
      refine ⟨rfl, fun awake plain => Bool.eq_false_iff.2 fun comment => ?_⟩
      rcases begun comment with before | sign
      · exact Bool.false_ne_true (awake.symm.trans before)
      · exact plain sign
  | read awake visible stepped => exact stepMode_moves outside next stepped

/-- Outside classes a reader stands behind what it has read. -/
theorem run_outside {text : List Char} (plain : '[' ∉ text) (outside : r.mode.inClass = false)
    (read : r.run text = .ok next) :
    next.mode.inClass = false ∧ next.position = text.foldl Position.after r.position := by
  induction text generalizing r with
  | nil =>
      cases read
      exact ⟨outside, rfl⟩
  | cons c rest ih =>
      obtain ⟨middle, stepped, read⟩ := bind_eq_ok.1 read
      rw [List.mem_cons, not_or] at plain
      have still_outside := step_outside (Ne.symm plain.1) outside stepped
      rw [List.foldl_cons, ← (step_moves outside _ stepped).position]
      exact ih plain.2 still_outside read

theorem run_awake {text : List Char} (plain : '[' ∉ text) (silent : '#' ∉ text)
    (outside : r.mode.inClass = false) (awake : r.inComment = false)
    (read : r.run text = .ok next) : next.inComment = false := by
  let Quiet (s : Reader) : Prop := s.mode.inClass = false ∧ s.inComment = false
  have keeps {s next : Reader} {c : Char} {rest : List Char} (member : c ∈ text)
      (stepped : s.step c rest = .ok next) (quiet : Quiet s) : Quiet next :=
    ⟨step_outside (ne_of_mem_of_not_mem member plain) quiet.1 stepped,
      (step_moves quiet.1 next stepped).awake quiet.2 (ne_of_mem_of_not_mem member silent)⟩
  exact (run_keeps keeps read ⟨outside, awake⟩).2

end Reader

def placeBehind (text : List Char) : Position := text.foldl Position.after .first

structure Simple (text : List Char) : Prop where
  no_bracket : '[' ∉ text
  no_sign : '#' ∉ text

variable {text more : List Char}

theorem Simple.of_append (simple : Simple (text ++ more)) : Simple text :=
  ⟨fun member => simple.no_bracket (List.mem_append_left more member),
    fun member => simple.no_sign (List.mem_append_left more member)⟩

theorem Simple.run (simple : Simple text) {r : Reader} (read : Reader.initial.run text = .ok r) :
    r.mode.inClass = false ∧ r.position = placeBehind text ∧ r.inComment = false := by
  obtain ⟨outside, position⟩ := Reader.run_outside simple.no_bracket rfl read
  exact ⟨outside, position, Reader.run_awake simple.no_bracket simple.no_sign rfl rfl read⟩

end ScriptTypes.Pattern
