import ScriptTypes.Proofs.Pattern.Openers

namespace ScriptTypes.Pattern

open ScriptTypes.Plural
open ScriptTypes.Text

def endsInEscape (text : List Char) : Bool :=
  match Reader.initial.run text with
  | .ok r => match r.mode with
    | .escape _ _ => true
    | _ => false
  | .error _ => false

namespace Reader

variable {r s next : Reader} {rest : List Char}

structure TakesSuffix (r s : Reader) (e : Expr) : Prop where
  settled : r.settle = .ok s
  ready : s.mode = .sequence
  closed : s.frames = []
  unused : s.names.lookup groupName = none
  spelled : e = closeLevel s.branches (s.sequence.push (suffixItem s.position (s.captures + 1)))
    (suffix.foldl Position.after s.position)

theorem run_suffix_ok (settled : r.settle = .ok s) (ready : s.mode = .sequence)
    (awake : r.inComment = false) (read : r.run suffix = .ok next) :
    s.names.lookup groupName = none ∧ next = s.takeSuffix := by
  rw [run_suffix settled ready awake] at read
  split at read
  · cases read
  · rename_i unused
    cases read
    exact ⟨unused, rfl⟩

theorem settle_sequence (ready : s.mode = .sequence) : s.settle = .ok s := by
  simp [settle, ready]

/-- Behind a parenthesis that opens, the suffix stands in a group, which is never closed. -/
theorem run_suffix_open {opening : Span} (mode : r.mode = .groupOpen opening)
    (awake : r.inComment = false) (read : r.run suffix = .ok next) (e : Expr) :
    next.finish ≠ .ok e := by
  let s := r.openCapture opening none
  have settled : s.settle = .ok s := settle_sequence rfl
  have same : r.run suffix = s.run suffix := by
    have stepped : ∀ rest, r.step '(' rest = s.step '(' rest := by
      intro rest
      rw [step_visible awake (by decide) (by decide), step_paren settled rfl awake,
        ← stepItem_paren (s := s) rfl rest]
      simp [stepMode, mode, s]
    simp only [suffix, run, stepped]
  rw [same] at read
  obtain ⟨-, rfl⟩ := run_suffix_ok settled rfl awake read
  intro finished
  obtain ⟨t, settled_next, -, closed, -⟩ := finish_eq_ok.1 finished
  rw [settle_sequence rfl] at settled_next
  cases settled_next
  cases closed

/-- What a text with the suffix behind it spells, if it has a meaning: what the text spells and
the plural group at its end. -/
theorem finish_suffix {e : Expr} (awake : r.inComment = false)
    (done : ∀ start place, r.mode ≠ .escape start place) (read : r.run suffix = .ok next)
    (finished : next.finish = .ok e) (meant : ¬ e.Meaningless) : ∃ s, TakesSuffix r s e := by
  by_cases inside : r.mode.inClass = true
  · exact absurd finished (finish_inClass (run_inClass (by decide) inside read) e)
  obtain ⟨middle, stepped, later⟩ := bind_eq_ok.1 read
  cases paren_role (Bool.not_eq_true _ ▸ inside) awake stepped with
  | opens s still spaced place same =>
      rcases place with ⟨s, settled, ready⟩ | ⟨opening, mode⟩
      · obtain ⟨unused, rfl⟩ := run_suffix_ok settled ready awake read
        obtain ⟨t, settled_next, -, closed, spelled⟩ := finish_eq_ok.1 finished
        rw [settle_sequence (s := takeSuffix _) ready] at settled_next
        cases settled_next
        exact ⟨_, settled, ready, closed, unused, spelled⟩
      · exact absurd finished (run_suffix_open mode awake read e)
  | escaped start mode ready => exact absurd mode (done _ .sequence)
  | property strange =>
      have hopeless := run_hopeless (.inr strange) later
      exact absurd (finish_hopeless hopeless finished) meant

end Reader

/-- The suffix of a pattern is read as its group, unless a comment or an escape took it. -/
theorem ofText_suffix {text : List Char} {e : Expr}
    (spelled : Expr.ofText? (text ++ suffix) = .ok e) (meant : ¬ e.Meaningless)
    (awake : endsInComment text = false) (done : endsInEscape text = false) :
    ∃ r s, Reader.initial.run text = .ok r ∧ Reader.TakesSuffix r s e := by
  obtain ⟨next, read, finished, -⟩ := ofText_eq_ok.1 spelled
  rw [Reader.run_append Reader.suffix_completes_nothing] at read
  obtain ⟨r, before, read⟩ := bind_eq_ok.1 read
  have awake_r : r.inComment = false := by simpa [endsInComment, before] using awake
  have done_r : ∀ start place, r.mode ≠ .escape start place := by
    intro start place mode
    simp [endsInEscape, before, mode] at done
  obtain ⟨s, takes⟩ := Reader.finish_suffix awake_r done_r read finished meant
  exact ⟨r, s, before, takes⟩

theorem ofText_suffix_of_valid {text : List Char} {e : Expr} {r s : Reader}
    (reads : Reads text r s e) (unnamed : groupName ∉ namesOf e.groups) (awake : r.inComment = false) :
    ∃ extended, Reader.TakesSuffix r s extended ∧
      Expr.ofText? (text ++ suffix) = extended.checked := by
  have unused : s.names.lookup groupName = none := by
    rw [reads.counted.lookup_eq_none, ← reads.groups]
    exact unnamed
  have read_suffix : Reader.initial.run (text ++ suffix) = .ok s.takeSuffix := by
    rw [Reader.run_append Reader.suffix_completes_nothing, reads.read]
    refine (Reader.run_suffix reads.settled reads.ready awake).trans ?_
    rw [unused]
  refine ⟨_, ⟨reads.settled, reads.ready, reads.closed, unused, rfl⟩, ?_⟩
  refine ofText_eq_checked read_suffix (Reader.finish_eq_ok.2 ?_)
  exact ⟨_, Reader.settle_sequence (s := s.takeSuffix) reads.ready, reads.ready, reads.closed, rfl⟩

end ScriptTypes.Pattern
