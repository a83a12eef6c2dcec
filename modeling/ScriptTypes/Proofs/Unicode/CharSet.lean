import ScriptTypes.Unicode.CharSet

namespace ScriptTypes.Unicode.CharSet

def within (n : Nat) (r : Nat × Nat) : Bool := r.1 ≤ n && n ≤ r.2

theorem hasCode_eq (s : CharSet) (n : Nat) : s.hasCode n = s.ranges.any (within n) := rfl

/-- Two intervals of which the second begins in or right behind the first are one. -/
theorem within_joined {n : Nat} {r next : Nat × Nat} (order : r.1 ≤ next.1)
    (near : next.1 ≤ r.2 + 1) :
    within n (r.1, max r.2 next.2) = (within n r || within n next) := by
  simp only [within, ← Bool.decide_and, ← Bool.decide_or]
  apply decide_eq_decide.2
  omega

theorem any_grow (n : Nat) (r : Nat × Nat) (rest : List (Nat × Nat))
    (sorted : (r :: rest).Pairwise fun a b => a.1 ≤ b.1) :
    (join.grow r rest).any (within n) = (within n r || rest.any (within n)) := by
  fun_induction join.grow r rest with
  | case1 r => simp
  | case2 r next rest near ih =>
      obtain ⟨first, later⟩ := List.pairwise_cons.1 sorted
      obtain ⟨second, last⟩ := List.pairwise_cons.1 later
      have order : r.1 ≤ next.1 := first next List.mem_cons_self
      have still : ((r.1, max r.2 next.2) :: rest).Pairwise fun a b => a.1 ≤ b.1 :=
        List.pairwise_cons.2 ⟨fun b member => first b (List.mem_cons_of_mem _ member), last⟩
      rw [ih still, within_joined order near, List.any_cons, Bool.or_assoc]
  | case3 r next rest apart ih =>
      rw [List.any_cons, ih (List.pairwise_cons.1 sorted).2, List.any_cons]

theorem any_join (n : Nat) (ranges : List (Nat × Nat))
    (sorted : ranges.Pairwise fun a b => a.1 ≤ b.1) :
    (join ranges).any (within n) = ranges.any (within n) := by
  cases ranges with
  | nil => rfl
  | cons r rest => rw [join, any_grow n r rest sorted, List.any_cons]

theorem any_place (n : Nat) (r : Nat × Nat) (ranges : List (Nat × Nat)) :
    (place r ranges).any (within n) = (within n r || ranges.any (within n)) := by
  induction ranges with
  | nil => rfl
  | cons next rest ih =>
      unfold place
      split
      · rfl
      · rw [List.any_cons, ih, List.any_cons, Bool.or_left_comm]

theorem mem_place {r a : Nat × Nat} {ranges : List (Nat × Nat)} (member : a ∈ place r ranges) :
    a = r ∨ a ∈ ranges := by
  induction ranges with
  | nil => exact .inl (List.mem_singleton.1 member)
  | cons next rest ih =>
      unfold place at member
      split at member
      · exact List.mem_cons.1 member
      · cases member with
        | head => exact .inr List.mem_cons_self
        | tail _ later => exact (ih later).imp_right (List.mem_cons_of_mem _)

theorem place_sorted {ranges : List (Nat × Nat)} (sorted : ranges.Pairwise fun a b => a.1 ≤ b.1)
    (r : Nat × Nat) : (place r ranges).Pairwise fun a b => a.1 ≤ b.1 := by
  induction ranges with
  | nil => exact List.pairwise_singleton _ r
  | cons next rest ih =>
      have first := (List.pairwise_cons.1 sorted).1
      unfold place
      split
      · rename_i below
        apply List.pairwise_cons.2 ⟨?_, sorted⟩
        intro a member
        cases member with
        | head => exact below
        | tail _ later => exact Nat.le_trans below (first a later)
      · rename_i above
        apply List.pairwise_cons.2 ⟨?_, ih (List.pairwise_cons.1 sorted).2⟩
        intro a member
        rcases mem_place member with rfl | later
        · omega
        · exact first a later

theorem sorted_places (ranges : List (Nat × Nat)) :
    (ranges.foldr place []).Pairwise fun a b => a.1 ≤ b.1 := by
  induction ranges with
  | nil => exact .nil
  | cons r rest ih => exact place_sorted ih r

theorem any_places (n : Nat) (ranges : List (Nat × Nat)) :
    (ranges.foldr place []).any (within n) = ranges.any (within n) := by
  induction ranges with
  | nil => rfl
  | cons r rest ih => rw [List.foldr_cons, any_place, ih, List.any_cons]

theorem hasCode_ofRanges (ranges : List (Nat × Nat)) (n : Nat) :
    (ofRanges ranges).hasCode n = ranges.any (within n) := by
  rw [ofRanges, hasCode_eq, any_join n _ (sorted_places ranges), any_places]

theorem hasCode_union (s t : CharSet) (n : Nat) :
    (s.union t).hasCode n = (s.hasCode n || t.hasCode n) := by
  unfold union
  split
  · rename_i idle
    rcases (Bool.or_eq_true _ _).mp idle with nothing | same
    · rw [hasCode_eq t, List.isEmpty_iff.1 nothing, List.any_nil, Bool.or_false]
    · rw [← of_decide_eq_true same, Bool.or_self]
  · rw [hasCode_ofRanges, List.any_append]
    rfl

theorem contains_union (s t : CharSet) (c : Char) :
    (s.union t).contains c = (s.contains c || t.contains c) :=
  hasCode_union s t c.toNat

theorem eq_empty {s : CharSet} (nothing : s.ranges.isEmpty = true) : s = .empty :=
  congrArg CharSet.mk (List.isEmpty_iff.1 nothing)

theorem contains_singleton (d c : Char) : (singleton d).contains c = decide (c = d) := by
  have same : (d.toNat ≤ c.toNat ∧ c.toNat ≤ d.toNat) ↔ c = d := by
    constructor
    · intro both
      exact Char.toNat_inj.1 (Nat.le_antisymm both.2 both.1)
    · intro same
      subst same
      exact ⟨Nat.le_refl _, Nat.le_refl _⟩
  simp only [contains, hasCode, singleton, List.any_cons, List.any_nil, Bool.or_false,
    ← Bool.decide_and]
  exact decide_eq_decide.2 same

theorem contains_of_single {s : CharSet} {d : Char} (single : s.single? = some d) (c : Char) :
    s.contains c = decide (c = d) := by
  unfold single? at single
  split at single
  · rename_i lo hi ranges
    split at single
    · rename_i one
      simp only [Bool.and_eq_true, decide_eq_true_eq] at one
      obtain ⟨rfl, valid⟩ := one
      cases single
      have code : (Char.ofNat lo).toNat = lo := by
        rw [Char.ofNat, dif_pos valid]
        rfl
      rw [← contains_singleton, contains, contains, hasCode, hasCode, ranges, singleton, code]
    · cases single
  · cases single

end ScriptTypes.Unicode.CharSet
