import Mathlib.Tactic.TFAE
import ScriptTypes.Proofs.Plural.Detection

/-!
Normalizing what has been normalized. The second time nothing changes, unless the suffix was put
behind a backslash, where it is not found; then a second suffix is put behind the first, and that
one is found ever after.
-/

namespace ScriptTypes.Plural

open ScriptTypes.Text

theorem source_normalize (pattern : List Char) :
    (normalize pattern).source =
      if hasGroup (trimChars pattern) then trimChars pattern else trimChars pattern ++ suffix := by
  simp only [normalize]
  split <;> rfl

theorem toList_normalizedSource (pattern : String) :
    (normalizedSource pattern).toList = (normalize pattern.toList).source := by
  rw [normalizedSource, String.toList_ofList]

theorem trimmed_suffix : Trimmed suffix := by
  refine ⟨?_, ?_⟩
  · intro c first
    cases first
    decide
  · intro c last
    cases last
    decide

theorem trimmed_source (pattern : List Char) : Trimmed (normalize pattern).source := by
  rw [source_normalize]
  split
  · exact trimmed_trimChars pattern
  · exact trimmed_append (trimmed_trimChars pattern) trimmed_suffix (by decide)

/-- A group is found in what normalizing gives, unless the suffix stands behind a backslash. -/
theorem hasGroup_source (pattern : List Char) :
    hasGroup (normalize pattern).source = true ↔
      hasGroup (trimChars pattern) = true ∨ (trimChars pattern).getLast? ≠ some '\\' := by
  rw [source_normalize]
  split
  · rename_i found
    exact ⟨.inl, fun _ => found⟩
  · exact hasGroup_append_suffix (trimChars pattern)

theorem normalize_again (pattern : List Char) :
    (normalize (normalize pattern).source).source =
      if hasGroup (normalize pattern).source then (normalize pattern).source
      else (normalize pattern).source ++ suffix := by
  rw [source_normalize (normalize pattern).source, trimChars_of_trimmed (trimmed_source pattern)]

theorem isStable_iff (pattern : List Char) :
    isStable pattern = true ↔ hasGroup (normalize pattern).source = true := by
  rw [isStable, decide_eq_true_iff, normalize_again]
  split
  · rename_i found
    exact iff_of_true rfl found
  · rename_i missed
    refine iff_of_false (fun same => ?_) missed
    have filled : suffix ≠ [] := by decide
    exact filled (List.append_right_eq_self.1 same)

theorem hasGroup_again (pattern : List Char) :
    hasGroup (normalize (normalize pattern).source).source = true := by
  refine (hasGroup_source _).2 ?_
  rw [trimChars_of_trimmed (trimmed_source pattern), source_normalize]
  split
  · rename_i found
    exact .inl found
  · right
    rw [List.getLast?_append_of_ne_nil _ (by decide)]
    decide

/-- The normal form of a pattern has no white space at its ends. Normalizing it again changes nothing
exactly if a plural group is found in it, which is so unless the trimmed pattern has none and ends in
a backslash. Normalizing it twice more is never different from normalizing it once more. -/
theorem normalizing_settles (pattern : String) :
    Trimmed (normalizedSource pattern).toList ∧
      [normalizedSource (normalizedSource pattern) = normalizedSource pattern,
        hasGroup (normalizedSource pattern).toList = true,
        hasGroup (trim pattern).toList = true ∨ (trim pattern).toList.getLast? ≠ some '\\'].TFAE ∧
      normalizedSource (normalizedSource (normalizedSource pattern)) =
        normalizedSource (normalizedSource pattern) := by
  have same_iff (p q : String) : normalizedSource p = normalizedSource q ↔
      (normalize p.toList).source = (normalize q.toList).source := by
    rw [← String.toList_inj, toList_normalizedSource, toList_normalizedSource]
  have trimmed : (trim pattern).toList = trimChars pattern.toList := String.toList_ofList
  have stable_iff : normalizedSource (normalizedSource pattern) = normalizedSource pattern ↔
      isStable pattern.toList = true := by
    rw [same_iff, toList_normalizedSource]
    exact decide_eq_true_iff.symm
  rw [trimmed, toList_normalizedSource]
  refine ⟨trimmed_source pattern.toList, ?_, ?_⟩
  · tfae_have 1 ↔ 2 := stable_iff.trans (isStable_iff pattern.toList)
    tfae_have 2 ↔ 3 := hasGroup_source pattern.toList
    tfae_finish
  · rw [same_iff, toList_normalizedSource, toList_normalizedSource]
    exact of_decide_eq_true ((isStable_iff _).2 (hasGroup_again pattern.toList))

end ScriptTypes.Plural
