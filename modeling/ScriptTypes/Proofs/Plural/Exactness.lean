import ScriptTypes.Proofs.Descriptor.Collision
import ScriptTypes.Proofs.Pattern.Headers
import ScriptTypes.Proofs.Plural.Detection

namespace ScriptTypes

open ScriptTypes.Pattern
open ScriptTypes.Plural
open ScriptTypes.Text

/-- The ways to open a plural group that the search passes over. -/
inductive Overlooked (text : List Char) (place : Position) : Prop
  /-- Backslashes that escape each other stand before the parenthesis. -/
  | backslashes (front back : List Char) (split : text = front ++ opener ++ back)
      (here : place = placeBehind front) (some : 0 < backslashes front)
      (even : backslashes front % 2 = 0)
  /-- A letter stands before the name. -/
  | letter (front back : List Char) (split : text = front ++ "(?P<plural>".toList ++ back)
      (here : place = placeBehind front)
  /-- White space, over which spaced reading passes, stands behind the parenthesis. -/
  | blanks (front blanks back : List Char)
      (split : text = front ++ '(' :: (blanks ++ '?' :: back)) (here : place = placeBehind front)
      (filled : blanks ≠ []) (blank : ∀ c ∈ blanks, isBlank c = true)
      (spaced : ∃ r, Reader.initial.run front = .ok r ∧ r.spaced = true)

/-- A plural group that is spelled in a text in which none is found has been overlooked. -/
theorem overlooked_of_spells {text : List Char} {place : Position}
    (spells : Spells text place groupName) (missed : hasGroup text = false) :
    Overlooked text place := by
  obtain ⟨before, blanks, mark, rest, spaced, split, marked, header⟩ := spells
  by_cases filled : blanks = []
  · subst filled
    rcases marked with rfl | rfl
    · have found : text = before ++ opener ++ rest := by rw [split, List.append_assoc]; rfl
      have escaped : before.getLast? = some '\\' := by
        by_contra free
        rw [(hasGroup_iff text).2 ⟨before, rest, found, free⟩] at missed
        cases missed
      exact .backslashes before rest found header.place (backslashes_pos.2 escaped) header.even
    · exact .letter before rest (by rw [split, List.append_assoc]; rfl) header.place
  · obtain ⟨r, read, same⟩ := header.read
    exact .blanks before blanks _ split header.place filled header.blank
      ⟨r, read, same.trans (header.passed filled)⟩

/-- What the search for a plural group says of a valid pattern without brackets and number signs.
If it finds an opener, the pattern has a group there that is named `plural`, be it in a repetition
of no turns; if it finds none, each such group is opened in one of three ways. -/
theorem detection_exact {text : List Char} {form : Form} (valid : Matcher.formOf? text = .ok form)
    (no_bracket : '[' ∉ text) (no_sign : '#' ∉ text) :
    ∃ e, Expr.ofText? text = .ok e ∧
      (hasGroup text = true → ∃ front back index, text = front ++ opener ++ back ∧
        (placeBehind front, index, some groupName) ∈ e.openings) ∧
      (hasGroup text = false → ∀ place index, (place, index, some groupName) ∈ e.openings →
        Overlooked text place) := by
  obtain ⟨e, flags, spelled, meant, -⟩ := formOf_eq_ok.1 valid
  have meaningful : ¬ e.Meaningless := fun hopeless => hopeless {} _ meant
  have simple : Simple text := ⟨no_bracket, no_sign⟩
  refine ⟨e, spelled, fun found => ?_, fun missed place index member => ?_⟩
  · obtain ⟨front, back, rfl, free⟩ := (hasGroup_iff text).1 found
    obtain ⟨index, opened⟩ := opener_opens simple free spelled meaningful
    exact ⟨front, back, index, rfl, opened⟩
  · exact overlooked_of_spells (named_group_spelled simple spelled member) missed

/-- An escaped backslash hides a group. -/
theorem escaped_backslash_overlooked :
    ∃ e place index, Expr.ofText? "\\\\(?<plural>s)".toList = .ok e ∧
      (place, index, some groupName) ∈ e.openings ∧
      Overlooked "\\\\(?<plural>s)".toList place := by
  have valid : Matcher.formOf? "\\\\(?<plural>s)".toList =
      .ok (.seq (.literal ['\\']) (.capture 1 (some "plural") (.literal ['s']))) := by decide +kernel
  have opened : (Expr.ofText? "\\\\(?<plural>s)".toList).map Expr.openings =
      .ok [(⟨2, 1, 3⟩, 1, some "plural")] := by decide +kernel
  obtain ⟨e, spelled, -, missing⟩ := detection_exact valid (by decide) (by decide)
  rw [spelled] at opened
  have member : (⟨2, 1, 3⟩, 1, some groupName) ∈ e.openings := by
    have alone : e.openings = [(⟨2, 1, 3⟩, 1, some "plural")] := Except.ok.inj opened
    rw [alone]
    exact List.mem_singleton_self _
  exact ⟨e, _, _, spelled, member, missing (by decide +kernel) _ _ member⟩

end ScriptTypes
