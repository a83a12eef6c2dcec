import ScriptTypes.Proofs.Pattern.Appending
import ScriptTypes.Proofs.Pattern.Commented
import ScriptTypes.Proofs.Pattern.Escapes
import ScriptTypes.Proofs.Pattern.Vouching

/-!
How the suffix can mend a text that is no pattern. An open escape takes its parenthesis, so the one
that closes it closes a group of the text instead. In all other states of the reader, text and
suffix are a pattern only if the text is one.
-/

namespace ScriptTypes.Pattern

open ScriptTypes.Plural
open ScriptTypes.Text

def letters : Position → List Char → List Expr
  | _, [] => []
  | p, c :: rest => .atom (.literal ⟨.char p c, c, false⟩) :: letters (p.after c) rest

def escapedOpener (start p : Position) : List Expr :=
  let mark := (p.after '(').after '?'
  (letters mark ['<', 'p', 'l', 'u', 'r', 'a', 'l', '>']).reverse ++
    [.repetition ⟨start, mark⟩ 0 (some 1) true (.atom (.literal ⟨⟨start, p.after '('⟩, '(', false⟩))]

theorem openings_escapedOpener (start p : Position) :
    Expr.allOpenings (escapedOpener start p).reverse = [] := rfl

namespace Reader

variable {r s next : Reader} {rest : List Char} {start : Position} {e : Expr}

def escapeOpener (r : Reader) (start : Position) : Reader :=
  { r with
    position := opener.foldl Position.after r.position
    mode := .sequence
    sequence := { r.sequence with parts := escapedOpener start r.position ++ r.sequence.parts } }

theorem run_escapeOpener (mode : r.mode = .escape start .sequence) (awake : r.inComment = false)
    (rest : List Char) : r.run (opener ++ rest) = (r.escapeOpener start).run rest := by
  obtain ⟨position, _, spaced, inComment, sequence, branches, frames, layers, members, captures,
    names⟩ := r
  cases mode
  cases awake
  cases spaced <;> rfl

/-- Behind an open escape the suffix closes a group, if one is open. -/
theorem run_suffix_escape (mode : r.mode = .escape start .sequence) (awake : r.inComment = false) :
    r.run suffix =
      match r.frames with
      | [] => fail .groupUnopened (.char (opener.foldl Position.after r.position) ')')
      | frame :: frames => .ok ((r.escapeOpener start).closeOptional frame frames) := by
  have split_suffix : suffix = opener ++ [')', '?', '?'] := rfl
  rw [split_suffix, run_escapeOpener mode awake]
  exact run_end (r.escapeOpener start) rfl awake

/-- How the suffix mends a text that ends in an escape: its parenthesis is escaped, and what it
closes is the one group that the text has left open. -/
structure Mends (r : Reader) (start : Position) (frame : Frame) (e : Expr) : Prop where
  mode : r.mode = .escape start .sequence
  opened : r.frames = [frame]
  spelled : e = closeLevel frame.outerBranches
    ((r.escapeOpener start).closeOptional frame []).sequence
    (suffix.foldl Position.after r.position)

theorem Mends.groups {frame : Frame} (mends : Mends r start frame e) : e.groups = r.groups := by
  obtain ⟨mode, opened, rfl⟩ := mends
  have calm : r.mode.openings = [] := by rw [mode]; rfl
  rw [Expr.groups_eq, Reader.groups, openings_of_calm calm, settledOpenings, opened,
    openings_closeLevel]
  simp only [closeOptional, escapeOpener, levelOpenings_push, Expr.openings, openings_group,
    openings_closeLevel]
  simp [Frame.openings, levelOpenings, openings_escapedOpener]

theorem mends_of_finish (mode : r.mode = .escape start .sequence) (awake : r.inComment = false)
    (read : r.run suffix = .ok next) (finished : next.finish = .ok e) :
    ∃ frame, Mends r start frame e := by
  rw [run_suffix_escape mode awake] at read
  split at read
  · cases read
  · rename_i frame frames opened
    cases read
    obtain ⟨s, settled, ready, closed, rfl⟩ := finish_eq_ok.1 finished
    cases settled
    cases closed
    exact ⟨frame, mode, opened, rfl⟩

end Reader

theorem keepsFlags_suffixItem (p : Position) (index : Nat) : (suffixItem p index).KeepsFlags := by
  intro f form after meant
  rw [form_suffixItem] at meant
  cases meant
  rfl

/-- The suffix makes a pattern of a text that is none only behind an open escape. -/
theorem wellFormed_or_mends {text : List Char} {e : Expr} {result : Form × Flags}
    (spelled : Expr.ofText? (text ++ suffix) = .ok e) (meant : e.form {} = .ok result) :
    WellFormed text ∨
      ∃ r start frame, Reader.initial.run text = .ok r ∧ Reader.Mends r start frame e := by
  obtain ⟨next, read, finished, shallow⟩ := ofText_eq_ok.1 spelled
  have meaningful : ¬ e.Meaningless := fun hopeless => hopeless {} _ meant
  rw [Reader.run_append Reader.suffix_completes_nothing] at read
  obtain ⟨r, before, read⟩ := bind_eq_ok.1 read
  -- the suffix holds no closing bracket, so that a class that is open stays open
  cases inside : r.mode.inClass with
  | true =>
      have still := Reader.run_inClass (by decide) inside read
      exact absurd finished (Reader.finish_inClass still e)
  | false =>
      cases commented : r.inComment with
      | true =>
          rw [Reader.run_comment commented inside (by decide)] at read
          cases read
          obtain ⟨own, own_finished, same⟩ := (r.alike_moveTo _).symm.finish finished
          exact .inl (wellFormed_of_vouches before own_finished (vouches_alike same.symm)
            shallow meant)
      | false =>
          by_cases escape : ∃ start, r.mode = .escape start .sequence
          · obtain ⟨start, mode⟩ := escape
            obtain ⟨frame, mends⟩ := Reader.mends_of_finish mode commented read finished
            exact .inr ⟨r, start, frame, before, mends⟩
          · have done : ∀ start place, r.mode ≠ .escape start place := by
              intro start place mode
              rw [mode] at inside
              obtain rfl := place_of_outside inside
              exact escape ⟨start, mode⟩
            obtain ⟨s, settled, ready, closed, -, rfl⟩ :=
              Reader.finish_suffix commented done read finished meaningful
            refine .inl (wellFormed_of_vouches before
              (Reader.finish_eq_ok.2 ⟨s, settled, ready, closed, rfl⟩) ?_ shallow meant)
            exact vouches_last _ (vouches_push (keepsFlags_suffixItem _ _) _ _)

end ScriptTypes.Pattern
