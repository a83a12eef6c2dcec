import ScriptTypes.Proofs.Descriptor.Conservation
import ScriptTypes.Proofs.Pattern.Mending

/-!
Patterns that are malformed by themselves. The suffix makes a descriptor of one only if it ends in
an open escape inside a group: then its first parenthesis is a character, and its second one closes
that group.
-/

namespace ScriptTypes

open ScriptTypes.Pattern
open ScriptTypes.Plural

namespace Pattern

/-- A text is refused as malformed exactly if it spells nothing that has a meaning. -/
theorem formOf_eq_invalid {text : List Char} :
    (∃ fault, Matcher.formOf? text = .error (.invalid fault)) ↔ ¬ WellFormed text := by
  unfold Matcher.formOf? WellFormed
  cases spelled : Expr.ofText? text with
  | error fault => simp [bind, Except.bind]
  | ok e =>
      cases meant : e.form {} with
      | error fault => simp [bind, Except.bind, meant]
      | ok result =>
          obtain ⟨form, after⟩ := result
          cases fits : form.fits <;> simp [bind, Except.bind, meant, fits]

end Pattern

theorem build_of_missed_error {q : Request} {rejection : Rejection}
    (missed : hasGroup q.trimmed = false)
    (refused : Matcher.formOf? (q.trimmed ++ suffix) = .error rejection) :
    q.build = .error ⟨q.baseName, .ofList (q.trimmed ++ suffix), rejection⟩ :=
  build_of_refused (normalizedSource_of_missed missed) refused

theorem build_of_found_error {q : Request} {rejection : Rejection}
    (found : hasGroup q.trimmed = true)
    (refused : Matcher.formOf? q.trimmed = .error rejection) :
    q.build = .error ⟨q.baseName, .ofList q.trimmed, rejection⟩ :=
  build_of_refused (normalizedSource_of_found found) refused

/-- A pattern that is malformed by itself is refused, for what is wrong with it, if a plural group
was found in it. Else the suffix can mend it in one way only: the pattern ends in an odd number of
backslashes and leaves one group open. The last backslash makes a character of the parenthesis that
opens in the suffix, the one that closes there closes the group, and no group is opened but those of
the pattern. Every other malformed pattern is refused as malformed. -/
theorem malformed_refused_or_mended (q : Request) (fault : Fault)
    (malformed : Matcher.formOf? q.trimmed = .error (.invalid fault)) :
    (hasGroup q.trimmed = true →
      q.build = .error ⟨q.baseName, .ofList q.trimmed, .invalid fault⟩) ∧
    (hasGroup q.trimmed = false → backslashes q.trimmed % 2 = 0 →
      ∃ later, q.build = .error ⟨q.baseName, .ofList (q.trimmed ++ suffix), .invalid later⟩) ∧
    (hasGroup q.trimmed = false → ∀ d, q.build = .ok d →
      backslashes q.trimmed % 2 = 1 ∧ d.source = .ofList (q.trimmed ++ suffix) ∧
        ∃ r start frame e, Reader.initial.run q.trimmed = .ok r ∧ Reader.Mends r start frame e ∧
          Expr.ofText? d.source.toList = .ok e ∧ e.groups = r.groups ∧
          d.matcher.groupNames = listed e.lasting) := by
  have hopeless : ¬ WellFormed q.trimmed := formOf_eq_invalid.1 ⟨fault, malformed⟩
  refine ⟨fun found => build_of_found_error found malformed, ?_, ?_⟩
  -- an even number of backslashes leaves no escape open, and nothing else can be mended
  · intro missed even
    have still : ¬ WellFormed (q.trimmed ++ suffix) := by
      rintro ⟨e, result, spelled, meant⟩
      rcases wellFormed_or_mends spelled meant with well | ⟨r, start, frame, read, mends⟩
      · exact hopeless well
      · have odd := (odd_of_escape read mends.mode).2
        omega
    obtain ⟨later, refused⟩ := formOf_eq_invalid.2 still
    exact ⟨later, build_of_missed_error missed refused⟩
  · intro missed d built
    obtain ⟨matcher, compiled, rfl⟩ := build_eq_ok.1 built
    obtain ⟨source, valid⟩ := compile_eq_ok.1 compiled
    rw [normalizedSource_of_missed missed] at source
    have listed_source : matcher.source.toList = q.trimmed ++ suffix := by
      rw [source, String.toList_ofList]
      rfl
    rw [← toList_normalizedSource, normalizedSource_of_missed missed, String.toList_ofList] at valid
    obtain ⟨e, after, spelled, meant, -⟩ := formOf_eq_ok.1 valid
    rcases wellFormed_or_mends spelled meant with well | ⟨r, start, frame, read, mends⟩
    · exact absurd well hopeless
    · have own_spelled : Expr.ofText? matcher.source.toList = .ok e := by
        rw [listed_source]
        exact spelled
      refine ⟨(odd_of_escape read mends.mode).2, source, r, start, frame, e, read, mends,
        own_spelled, mends.groups, groupNames_ofText spelled meant⟩

/-- A group that is left open behind a backslash is closed by the suffix. -/
theorem open_group_is_mended :
    ∃ d, Request.build ⟨"t", "(a\\", .text, .textSlice, none, none, .new⟩ = .ok d ∧
      d.source = "(a\\(?<plural>)??" ∧ d.matcher.groupNames = [none, none] ∧
      ∃ r start frame e, Reader.initial.run "(a\\".toList = .ok r ∧
        Reader.Mends r start frame e ∧ e.groups = r.groups := by
  let q : Request := ⟨"t", "(a\\", .text, .textSlice, none, none, .new⟩
  have trimmed : q.trimmed = "(a\\".toList := by decide +kernel
  have malformed : Matcher.formOf? "(a\\".toList =
      .error (.invalid ⟨.escapeCutShort, ⟨⟨2, 1, 3⟩, ⟨3, 1, 4⟩⟩, none⟩) := by decide +kernel
  have missed : hasGroup q.trimmed = false := by decide +kernel
  have compiled : (compile "t" "(a\\").map Matcher.groupNames = .ok [none, none] := by decide +kernel
  obtain ⟨matcher, outcome, names⟩ := exists_of_map_eq_ok compiled
  have built := build_eq_ok (q := q).2 ⟨matcher, outcome, rfl⟩
  rw [← trimmed] at malformed
  obtain ⟨-, source, r, start, frame, e, read, mends, -, groups, -⟩ :=
    (malformed_refused_or_mended q _ malformed).2.2 missed _ built
  rw [trimmed] at source read
  exact ⟨_, built, source.trans (by decide +kernel), names, r, start, frame, e, read, mends, groups⟩

end ScriptTypes
