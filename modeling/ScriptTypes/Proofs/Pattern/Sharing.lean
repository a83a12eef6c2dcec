import ScriptTypes.Proofs.Pattern.Shape

namespace ScriptTypes.Pattern

namespace Form

theorem le_commonLength_iff {first other : List Form} {n : Nat} :
    n ≤ commonLength first other ↔
      ∃ common, common.length = n ∧ common <+: first ∧ common <+: other := by
  constructor
  · intro within
    have short := (commonLength_le first other).1
    refine ⟨first.take n, ?_, List.take_prefix n first, ?_⟩
    · rw [List.length_take]
      omega
    · rw [← take_commonLength within]
      exact List.take_prefix n other
  · rintro ⟨common, rfl, left, right⟩
    induction common generalizing first other with
    | nil => exact Nat.zero_le _
    | cons x common ih =>
        obtain ⟨rest, rfl⟩ := left
        obtain ⟨more, rfl⟩ := right
        have longer := ih (List.prefix_append common rest) (List.prefix_append common more)
        rw [List.cons_append, List.cons_append, commonLength, if_pos rfl, List.length_cons]
        exact Nat.succ_le_succ longer

theorem le_sharedLength_iff {lists : List (List Form)} {n : Nat} (positive : 0 < n) :
    n ≤ sharedLength lists ↔
      lists ≠ [] ∧ (∀ l ∈ lists, 2 ≤ l.length) ∧
        ∃ common, common.length = n ∧ ∀ l ∈ lists, common <+: l := by
  cases lists with
  | nil =>
      simp only [sharedLength, ne_eq, not_true_eq_false, false_and, iff_false]
      omega
  | cons first others =>
      simp only [sharedLength, List.forall_mem_cons]
      split
      · rename_i short
        refine ⟨fun within => absurd within (by omega), ?_⟩
        rintro ⟨-, ⟨long, longs⟩, -⟩
        simp only [Bool.or_eq_true, decide_eq_true_eq, List.any_eq_true] at short
        rcases short with short | ⟨other, member, short⟩
        · omega
        · have := longs other member
          omega
      · rename_i long
        simp only [Bool.or_eq_true, decide_eq_true_eq, List.any_eq_true, not_or, not_exists,
          not_and, Nat.not_lt] at long
        -- the least of the common lengths is below each of them and is one of them
        obtain ⟨bounded, least, attained⟩ :=
          foldl_min_attained (commonLength first) others first.length
        constructor
        · intro within
          have prefixes (other : List Form) (member : other ∈ others) :
              first.take n <+: other := by
            have shared := Nat.le_trans within (least other member)
            rw [← take_commonLength shared]
            exact List.take_prefix n other
          refine ⟨List.cons_ne_nil _ _, long, first.take n, ?_, List.take_prefix n first, prefixes⟩
          rw [List.length_take]
          omega
        · rintro ⟨-, -, common, rfl, own, shared⟩
          rcases attained with whole | ⟨other, member, reached⟩
          · rw [whole]
            exact own.length_le
          · rw [reached]
            exact le_commonLength_iff.2 ⟨common, rfl, own, shared other member⟩

theorem sharedLength_drop {lists : List (List Form)} {n : Nat} (positive : 0 < n)
    (shared : sharedLength lists = n) : sharedLength (lists.map (·.drop n)) = 0 := by
  apply Nat.eq_zero_of_not_pos
  intro more
  obtain ⟨filled, long, common, same, begins⟩ :=
    (le_sharedLength_iff positive).1 (Nat.le_of_eq shared.symm)
  obtain ⟨-, -, next, one, behind⟩ := (le_sharedLength_iff (n := 1) (by decide)).1 more
  have longer : n + 1 ≤ sharedLength lists := by
    have length : (common ++ next).length = n + 1 := by simp [same, one]
    refine (le_sharedLength_iff (by omega)).2 ⟨filled, long, common ++ next, length, ?_⟩
    intro l member
    obtain ⟨rest, spelled⟩ := begins l member
    obtain ⟨tail, dropped⟩ := behind (l.drop n) (List.mem_map_of_mem member)
    refine ⟨tail, ?_⟩
    have rest_eq : l.drop n = rest := by rw [← spelled, ← same, List.drop_left]
    rw [List.append_assoc, dropped, rest_eq, spelled]
  omega

/-- A part that no other list has, put behind one of them, changes nothing of what they share. -/
theorem sharedLength_append_fresh {lists : List (List Form)} {last : List Form} {tail : Form}
    (filled : lists ≠ []) (fresh : ∀ l ∈ lists, tail ∉ l) (long : 2 ≤ last.length) :
    sharedLength (lists ++ [last ++ [tail]]) = sharedLength (lists ++ [last]) := by
  have shared_iff {n : Nat} (positive : 0 < n) :
      n ≤ sharedLength (lists ++ [last ++ [tail]]) ↔ n ≤ sharedLength (lists ++ [last]) := by
    rw [le_sharedLength_iff positive, le_sharedLength_iff positive]
    simp only [List.forall_mem_append, List.forall_mem_singleton]
    constructor
    · rintro ⟨-, ⟨longs, -⟩, common, same, begins, ends⟩
      refine ⟨by simp, ⟨longs, long⟩, common, same, begins, ?_⟩
      rcases List.prefix_concat_iff.1 ends with whole | shorter
      · obtain ⟨l, member⟩ := List.exists_mem_of_ne_nil _ filled
        have inside : tail ∈ common := by simp [whole]
        exact absurd ((begins l member).subset inside) (fresh l member)
      · exact shorter
    · rintro ⟨-, ⟨longs, -⟩, common, same, begins, ends⟩
      refine ⟨by simp, ⟨longs, by simp; omega⟩, common, same, begins, ?_⟩
      exact ends.trans (List.prefix_append last [tail])
  have below : ∀ n, n ≤ sharedLength (lists ++ [last ++ [tail]]) ↔
      n ≤ sharedLength (lists ++ [last]) := by
    intro n
    cases n with
    | zero => simp
    | succ n => exact shared_iff (Nat.succ_pos n)
  exact Nat.le_antisymm ((below _).1 (Nat.le_refl _)) ((below _).2 (Nat.le_refl _))

theorem sharedLength_parts_iff {forms : List Form} :
    sharedLength (forms.map parts) ≠ 0 ↔
      forms ≠ [] ∧ ∃ x, ∀ f ∈ forms, ∃ rest, f = .seq x rest := by
  rw [← Nat.pos_iff_ne_zero]
  refine (le_sharedLength_iff (n := 1) (by decide)).trans ?_
  simp only [ne_eq, List.map_eq_nil_iff, List.forall_mem_map]
  constructor
  · rintro ⟨filled, long, common, one, begins⟩
    obtain ⟨x, rfl⟩ := List.length_eq_one_iff.1 one
    refine ⟨filled, x, fun f member => ?_⟩
    have two := long f member
    cases f with
    | seq first rest =>
        obtain ⟨more, spelled⟩ := begins _ member
        cases spelled
        exact ⟨rest, rfl⟩
    | _ => simp [parts] at two
  · rintro ⟨filled, x, begins⟩
    have filled_parts (g : Form) : 1 ≤ g.parts.length := by cases g <;> simp [parts]
    refine ⟨filled, fun f member => ?_, [x], rfl, fun f member => ?_⟩
    · obtain ⟨rest, rfl⟩ := begins f member
      exact Nat.succ_le_succ (filled_parts rest)
    · obtain ⟨rest, rfl⟩ := begins f member
      exact ⟨rest.parts, rfl⟩

end Form

end ScriptTypes.Pattern
