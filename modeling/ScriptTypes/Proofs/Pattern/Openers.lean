import ScriptTypes.Proofs.Pattern.Advancing
import ScriptTypes.Proofs.Pattern.Escapes
import ScriptTypes.Proofs.Pattern.Hopeless
import ScriptTypes.Proofs.Pattern.Suffix

/-!
The text that opens a plural group, in a pattern without brackets and number signs. Behind a
backslash that takes the parenthesis it may be anything; elsewhere it opens a group that has this
name, as the only other place for a parenthesis is the name of a property, which then has no
meaning.
-/

namespace ScriptTypes.Pattern

open ScriptTypes.Plural
open ScriptTypes.Text

namespace Reader

variable {r s next : Reader} {c : Char} {rest text u v : List Char} {e : Expr}

def openParen (s : Reader) : Reader := s.become '(' (.groupOpen (.char s.position '('))

inductive ParenRole (r next : Reader) : Prop
  | opens (s : Reader) (still : Still r s) (spaced : s.spaced = r.spaced)
      (place : (∃ s, r.settle = .ok s ∧ s.mode = .sequence) ∨ ∃ opening, r.mode = .groupOpen opening)
      (same : next = s.openParen)
  | escaped (start : Position) (mode : r.mode = .escape start .sequence)
      (ready : next.mode = .sequence)
  | property (strange : next.mode.Strange)

theorem paren_role (outside : r.mode.inClass = false) (awake : r.inComment = false)
    (stepped : r.step '(' rest = .ok next) : ParenRole r next := by
  have strange : '(' ∈ Unicode.nameless := by decide
  have taken : r.stepMode '(' rest = .ok next := by
    rwa [step_visible awake (by decide) (by decide)] at stepped
  cases place_of_foreign foreign_paren outside taken with
  | @item s settled ready =>
      rw [step_paren settled ready awake] at stepped
      cases stepped
      have spaced : s.spaced = r.spaced := by
        rcases settle_eq settled ready with rfl | ⟨item, rfl⟩ <;> rfl
      exact .opens s (still_settle settled ready) spaced (.inl ⟨s, settled, ready⟩) rfl
  | @opening opening mode =>
      -- the group before it turns out to have no name, and this one is the first thing in it
      have unnamed : r.stepMode '(' rest = (r.openCapture opening none).stepItem '(' rest := by
        simp [stepMode, mode]
      rw [unnamed, stepItem_paren rfl] at taken
      cases taken
      exact .opens (r.openCapture opening none) ⟨rfl, rfl⟩ rfl (.inr ⟨opening, mode⟩) rfl
  | escape mode =>
      simp only [stepMode, mode] at taken
      cases taken
      exact .escaped _ mode rfl
  | property mode =>
      simp only [stepMode, mode] at taken
      cases taken
      exact .property (.letter strange _ _)
  | propertyName mode =>
      obtain rfl := place_of_outside (mode ▸ outside)
      simp only [stepMode, mode] at taken
      cases taken
      exact .property (.name strange List.mem_cons_self _ _)
  | name part mode => exact absurd part (by decide)
  | count blank mode => exact absurd blank (by decide)

theorem openings_opener (awake : s.inComment = false)
    (read : s.openParen.run (['?', '<', 'p', 'l', 'u', 'r', 'a', 'l', '>'] ++ v) = .ok next) :
    (s.position, s.captures + 1, some groupName) ∈ next.openings := by
  have split_text : ['?', '<', 'p', 'l', 'u', 'r', 'a', 'l', '>'] ++ v =
      ['?', '<', 'p', 'l', 'u', 'r', 'a', 'l'] ++ '>' :: v := rfl
  rw [split_text, openParen, run_suffix_name s awake] at read
  obtain ⟨opened, stepped, read⟩ := bind_eq_ok.1 read
  rw [step_suffix_name s awake] at stepped
  split at stepped
  · cases stepped
  · cases stepped
    refine (openings_run read).subset ?_
    rw [openPlural, openings_openCapture]
    exact List.mem_append_right _ (List.mem_singleton_self _)

end Reader

variable {text u v : List Char} {e : Expr}

/-- The text that opens a plural group does so, unless a backslash stands before it. -/
theorem opener_opens (simple : Simple (u ++ opener ++ v)) (free : u.getLast? ≠ some '\\')
    (spelled : Expr.ofText? (u ++ opener ++ v) = .ok e) (meaningful : ¬ e.Meaningless) :
    ∃ index, (placeBehind u, index, some groupName) ∈ e.openings := by
  obtain ⟨last, read, finished, -⟩ := ofText_eq_ok.1 spelled
  rw [List.append_assoc] at simple read
  rw [Reader.run_append_plain simple.of_append.no_bracket] at read
  obtain ⟨r, read_front, read⟩ := bind_eq_ok.1 read
  obtain ⟨outside, position, awake⟩ := simple.of_append.run read_front
  obtain ⟨next, stepped, read⟩ := bind_eq_ok.1 read
  cases Reader.paren_role outside awake stepped with
  | opens s still spaced place same =>
      subst same
      have opened := Reader.openings_opener (still.inComment.trans awake) read
      rw [← Reader.openings_finish finished, still.position, position] at opened
      exact ⟨_, opened⟩
  | escaped start mode ready =>
      have odd := (odd_of_escape read_front mode).2
      exact absurd (backslashes_pos.1 (by omega)) free
  | property strange =>
      -- the parenthesis belongs to the name of a property, and no property is called so
      have hopeless := Reader.run_hopeless (.inr strange) read
      exact absurd (Reader.finish_hopeless hopeless finished) meaningful

end ScriptTypes.Pattern
