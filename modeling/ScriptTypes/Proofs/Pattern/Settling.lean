import ScriptTypes.Proofs.Pattern.GroupSteps

namespace ScriptTypes.Pattern

open ScriptTypes.Text

namespace Reader

variable {r s next : Reader} {c : Char} {rest : List Char}

def settle (r : Reader) : Except Fault Reader :=
  match r.mode with
  | .quantifier low high target => .ok (r.pushRepetition low high true target)
  | .counted start low high target => r.pushCounted start low high true target
  | .wordEdge start place => r.closeWordEdge start r.position place
  | .hexEnd start digits width read place => r.closeHex start digits width read place
  | .hexBraceEnd start brace digits stop read place =>
    r.closeHexBrace start brace digits stop read place
  | .propertyLetter start negated letter place =>
    r.deliver place (.property ⟨start, r.position⟩ (.letter letter) negated)
  | _ => .ok r

theorem finishItem_eq_ok {e : Expr} :
    r.finishItem = .ok e ↔ r.mode = .sequence ∧ r.frames = [] ∧
      e = closeLevel r.branches r.sequence r.position := by
  unfold finishItem
  split
  · rename_i mode
    split
    · rename_i frames
      simp [frames]
    · rename_i frames
      simp [mode, frames, eq_comm]
  · rename_i mode
    simpa using fun absurd => (mode absurd).elim

theorem finish_eq_ok {e : Expr} :
    r.finish = .ok e ↔ ∃ s, r.settle = .ok s ∧ s.mode = .sequence ∧ s.frames = [] ∧
      e = closeLevel s.branches s.sequence s.position := by
  have settled : r.finish = .ok e ↔ ∃ s, r.settle = .ok s ∧ s.finishItem = .ok e := by
    cases mode : r.mode <;>
      simp [finish, settle, mode, bind_eq_ok, finishItem_eq_ok]
  simp only [settled, finishItem_eq_ok]

theorem place_of_ready {place : Place} {item : Atom} (delivered : r.deliver place item = .ok s)
    (ready : s.mode = .sequence) : place = .sequence := by
  cases place with
  | sequence => rfl
  | member =>
      cases delivered
      cases ready
  | rangeEnd first =>
      obtain ⟨range, -, result⟩ := bind_eq_ok.1 delivered
      cases result
      cases ready

theorem deliver_ready {place : Place} {item : Atom} (delivered : r.deliver place item = .ok s)
    (ready : s.mode = .sequence) : s = r.push (.atom item) := by
  obtain rfl := place_of_ready delivered ready
  cases delivered
  rfl

/-- Settling takes no character. A backslash stands in for one, as it closes no class. -/
theorem changes_settle (r : Reader) (o : Outline) :
    Changes '\\' r o r.settle (r.withOutline o).settle := by
  unfold settle
  simp only [withOutline_mode, withOutline_position]
  cases mode : r.mode with
  | quantifier low high target =>
      exact .done (change_pushRepetition ⟨rfl, rfl, rfl⟩ (congrArg Mode.target? mode)
        (congrArg Mode.inClass mode) low high true)
  | counted start low high target =>
      exact changes_pushCounted ⟨rfl, rfl, rfl⟩ (congrArg Mode.target? mode)
        (congrArg Mode.inClass mode) start low high true
  | wordEdge start place =>
      exact changes_deliver (congrArg Mode.inClass mode) (congrArg Mode.target? mode) _
  | hexEnd start digits width read place => exact changes_closeHex mode
  | hexBraceEnd start brace digits stop read place => exact changes_closeHexBrace mode
  | propertyLetter start negated letter place =>
      exact changes_deliver (congrArg Mode.inClass mode) (congrArg Mode.target? mode) _
  | _ => exact .done (.turn r ⟨rfl, rfl, rfl⟩ ⟨.inl rfl, rfl, fun _ => rfl, id, id⟩)

theorem same_settle (settled : r.settle = .ok s) : SameGroups r s :=
  (changes_settle r r.outline).same settled

theorem settle_eq (settled : r.settle = .ok s) (ready : s.mode = .sequence) :
    s = r ∨ ∃ item, s = r.push item := by
  unfold settle at settled
  split at settled
  · cases settled
    exact .inr ⟨_, rfl⟩
  · unfold pushCounted at settled
    split at settled
    · cases settled
    · cases settled
      exact .inr ⟨_, rfl⟩
  · exact .inr ⟨_, deliver_ready settled ready⟩
  · obtain ⟨item, delivered⟩ := closeHex_deliver settled
    exact .inr ⟨_, deliver_ready delivered ready⟩
  · obtain ⟨item, delivered⟩ := closeHexBrace_deliver settled
    exact .inr ⟨_, deliver_ready delivered ready⟩
  · exact .inr ⟨_, deliver_ready settled ready⟩
  · cases settled
    exact .inl rfl

theorem settle_inComment (settled : r.settle = .ok s) (ready : s.mode = .sequence) :
    s.inComment = r.inComment := by
  rcases settle_eq settled ready with rfl | ⟨item, rfl⟩
  · rfl
  · rfl

theorem openings_finish {e : Expr} (finished : r.finish = .ok e) : e.openings = r.openings := by
  obtain ⟨s, settled, ready, closed, rfl⟩ := finish_eq_ok.1 finished
  have same := same_settle settled
  have calm : s.mode.openings = [] := by rw [ready]; rfl
  rw [openings_closeLevel, ← same.openings, openings_of_calm calm, settledOpenings, closed]
  rfl

theorem groups_finish {e : Expr} (finished : r.finish = .ok e) : e.groups = r.groups := by
  rw [e.groups_eq, openings_finish finished]
  rfl

theorem step_visible (awake : r.inComment = false) (dark : isBlank c = false) (plain : c ≠ '#') :
    r.step c rest = r.stepMode c rest := by
  simp [step, awake, dark, plain]

theorem stepItem_paren (ready : s.mode = .sequence) (rest : List Char) :
    s.stepItem '(' rest = .ok (s.become '(' (.groupOpen (.char s.position '('))) := by
  have dark : isBlank '(' = false := by decide
  simp [stepItem, dark, ready, stepSequence]

/-- What waits for a character is settled by one that does not go on with it, which is then read as
the next item. -/
theorem stepMode_settled (settled : r.settle = .ok s) (ready : s.mode = .sequence)
    (no_mark : c ≠ '?') (no_brace : c ≠ '\x7b') (no_comment : c ≠ '#')
    (visible : r.mode = .sequence → (s.spaced && isBlank c) = false) :
    r.stepMode c rest = s.stepItem c rest := by
  unfold settle at settled
  unfold stepMode
  split at settled <;> rename_i mode
  · cases settled
    simp [mode, no_mark]
  · simp [mode, no_mark, settled, bind, Except.bind]
  · simp [mode, no_brace, settled, bind, Except.bind]
  · simp [mode, settled, bind, Except.bind]
  · simp [mode, settled, bind, Except.bind]
  · simp [mode, settled, bind, Except.bind]
  · cases settled
    simp [stepItem, ready, visible ready, no_comment]

theorem step_paren (settled : r.settle = .ok s) (ready : s.mode = .sequence)
    (awake : r.inComment = false) (rest : List Char) :
    r.step '(' rest = .ok (s.become '(' (.groupOpen (.char s.position '('))) := by
  have dark : isBlank '(' = false := by decide
  have visible : (s.spaced && isBlank '(') = false := by rw [dark, Bool.and_false]
  rw [step_visible awake dark (by decide), ← stepItem_paren ready rest]
  exact stepMode_settled settled ready (by decide) (by decide) (by decide) fun _ => visible

end Reader

end ScriptTypes.Pattern
