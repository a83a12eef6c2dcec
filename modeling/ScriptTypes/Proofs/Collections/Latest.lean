namespace ScriptTypes

variable {α β : Type}

/-- Whether an entry of a history puts something in force that no later entry ends. -/
def Latest (puts : List α → α → β → Prop) (ends : List α → α → Prop) (history : List α) (b : β) :
    Prop :=
  ∃ before entry after, history = before ++ entry :: after ∧ puts before entry b ∧
    ∀ mid later rest, after = mid ++ later :: rest → ¬ ends (before ++ entry :: mid) later

namespace Latest

variable {puts : List α → α → β → Prop} {ends : List α → α → Prop} {history : List α} {entry : α}
  {b : β}

theorem not_nil : ¬ Latest puts ends [] b := by
  rintro ⟨before, entry, after, split, -⟩
  exact absurd split (by simp)

/-- The last entry puts something in force, or what was in force before it still is. -/
theorem concat_iff :
    Latest puts ends (history ++ [entry]) b ↔
      puts history entry b ∨ ¬ ends history entry ∧ Latest puts ends history b := by
  constructor
  · rintro ⟨before, first, after, split, put, kept⟩
    rcases List.eq_nil_or_concat after with rfl | ⟨after, last, rfl⟩
    · obtain ⟨rfl, same⟩ := List.append_inj' split rfl
      cases same
      exact .inl put
    · have grouped : history ++ [entry] = (before ++ first :: after) ++ [last] := by simpa using split
      obtain ⟨rfl, same⟩ := List.append_inj' grouped rfl
      cases same
      refine .inr ⟨kept after _ [] (by simp), before, first, after, rfl, put, ?_⟩
      rintro mid later rest rfl
      exact kept mid later (rest ++ [entry]) (by simp)
  · rintro (put | ⟨kept_last, before, first, after, rfl, put, kept⟩)
    · exact ⟨history, entry, [], rfl, put, fun mid later rest absurd => by simp at absurd⟩
    · refine ⟨before, first, after ++ [entry], by simp, put, fun mid later rest split => ?_⟩
      rcases List.eq_nil_or_concat rest with rfl | ⟨rest, last, rfl⟩
      · obtain ⟨rfl, same⟩ := List.append_inj' split rfl
        cases same
        exact kept_last
      · have grouped : after ++ [entry] = (mid ++ later :: rest) ++ [last] := by simpa using split
        obtain ⟨rfl, -⟩ := List.append_inj' grouped rfl
        exact kept mid later rest rfl

end Latest

end ScriptTypes
