import ScriptTypes.Proofs.Pattern.Lasting

namespace ScriptTypes.Pattern

def lastIndex (groups : List Group) : Nat := groups.foldl (fun n g => max n g.1) 0

def listed (groups : List Group) : List (Option String) :=
  none :: (List.range (lastIndex groups)).map fun n => (groups.lookup (n + 1)).join

theorem groupNames_eq (m : Matcher) : m.groupNames = listed m.form.captures := rfl

def Distinct (groups : List Group) : Prop := ∀ g ∈ groups, ∀ h ∈ groups, g.1 = h.1 → g = h

variable {groups others : List Group}

theorem lastIndex_le_iff (groups : List Group) (bound : Nat) :
    lastIndex groups ≤ bound ↔ ∀ g ∈ groups, g.1 ≤ bound := by
  have general (start : Nat) :
      groups.foldl (fun n g => max n g.1) start ≤ bound ↔
        start ≤ bound ∧ ∀ g ∈ groups, g.1 ≤ bound := by
    induction groups generalizing start with
    | nil => simp
    | cons g groups ih =>
        rw [List.foldl_cons, ih, List.forall_mem_cons, Nat.max_le, and_assoc]
  rw [lastIndex, general]
  simp

theorem le_lastIndex {g : Group} (member : g ∈ groups) : g.1 ≤ lastIndex groups :=
  (lastIndex_le_iff groups _).1 (Nat.le_refl _) g member

theorem Numbered.distinct_indices (numbered : Numbered groups) : Distinct groups := by
  have unique : (groups.map (·.1)).Nodup := by
    rw [numbered.indices]
    exact List.nodup_range'
  have apart : groups.Pairwise fun g h => g.1 ≠ h.1 := List.pairwise_map.1 unique
  intro g member h other
  refine List.Pairwise.forall_of_forall_of_flip (R := fun g h => g.1 = h.1 → g = h) ?_ ?_ ?_ member
    other
  · exact fun g _ _ => rfl
  · exact apart.imp fun ne same => absurd same ne
  · exact apart.imp fun ne same => absurd same.symm ne

theorem Numbered.positive (numbered : Numbered groups) {g : Group} (member : g ∈ groups) :
    1 ≤ g.1 := by
  have index : g.1 ∈ groups.map (·.1) := List.mem_map_of_mem member
  rw [numbered.indices, List.mem_range'_1] at index
  exact index.1

theorem Numbered.bounded (numbered : Numbered groups) {g : Group} (member : g ∈ groups) :
    g.1 ≤ groups.length := by
  have index : g.1 ∈ groups.map (·.1) := List.mem_map_of_mem member
  rw [numbered.indices, List.mem_range'_1] at index
  omega

theorem Distinct.lookup_eq_some (distinct : Distinct groups) (index : Nat) (name : Option String) :
    groups.lookup index = some name ↔ (index, name) ∈ groups := by
  have member {name : Option String} (found : groups.lookup index = some name) :
      (index, name) ∈ groups := by
    obtain ⟨front, back, rfl, -⟩ := List.lookup_eq_some_iff.1 found
    simp
  constructor
  · exact member
  · intro present
    cases found : groups.lookup index with
    | none =>
        have absent := List.lookup_eq_none_iff.1 found _ present
        simp at absent
    | some other =>
        have same := distinct _ (member found) _ present rfl
        rw [(Prod.mk.inj same).2]

theorem listed_congr (same : ∀ g, g ∈ groups ↔ g ∈ others) (distinct : Distinct others) :
    listed groups = listed others := by
  have distinct_groups : Distinct groups := fun g member h other index =>
    distinct g ((same g).1 member) h ((same h).1 other) index
  have last : lastIndex groups = lastIndex others := by
    apply Nat.le_antisymm
    · exact (lastIndex_le_iff groups _).2 fun g member => le_lastIndex ((same g).1 member)
    · exact (lastIndex_le_iff others _).2 fun g member => le_lastIndex ((same g).2 member)
  have looked (index : Nat) : groups.lookup index = others.lookup index := by
    apply Option.ext
    intro name
    rw [distinct_groups.lookup_eq_some, distinct.lookup_eq_some, same]
  rw [listed, listed, last]
  simp only [looked]

theorem mem_namesOf {name : String} :
    name ∈ namesOf groups ↔ ∃ index, (index, some name) ∈ groups := by
  rw [namesOf, List.mem_filterMap]
  constructor
  · rintro ⟨⟨index, _⟩, member, rfl⟩
    exact ⟨index, member⟩
  · rintro ⟨index, member⟩
    exact ⟨_, member, rfl⟩

theorem index_of_name (unique : (namesOf groups).Nodup) {name : String} {i j : Nat}
    (first : (i, some name) ∈ groups) (second : (j, some name) ∈ groups) : i = j := by
  have apart := List.pairwise_filterMap.1 unique
  refine List.Pairwise.forall_of_forall_of_flip
    (R := fun g h : Group => g.2 = some name → h.2 = some name → g.1 = h.1) ?_ ?_ ?_ first second
    rfl rfl
  · exact fun g _ _ _ => rfl
  · exact apart.imp fun ne left right => absurd rfl (ne _ left _ right)
  · exact apart.imp fun ne right left => absurd rfl (ne _ left _ right)

theorem count_listed (distinct : Distinct groups) (positive : ∀ g ∈ groups, 1 ≤ g.1)
    (unique : (namesOf groups).Nodup) (name : String) :
    (listed groups).count (some name) = if name ∈ namesOf groups then 1 else 0 := by
  have shown (n : Nat) :
      (groups.lookup (n + 1)).join = some name ↔ (n + 1, some name) ∈ groups := by
    rw [Option.join_eq_some_iff, distinct.lookup_eq_some]
  rw [listed, List.count_cons_of_ne (by simp), List.count_eq_countP, List.countP_map]
  split
  · rename_i present
    obtain ⟨index, member⟩ := mem_namesOf.1 present
    have low := positive _ member
    have high := le_lastIndex member
    have only (n : Nat) : (groups.lookup (n + 1)).join = some name ↔ n = index - 1 := by
      rw [shown]
      constructor
      · intro other
        have := index_of_name unique other member
        omega
      · intro same
        subst same
        rwa [Nat.sub_add_cancel low]
    have counted : (List.range (lastIndex groups)).count (index - 1) = 1 := by
      rw [List.count_range, if_pos (by omega)]
    refine Eq.trans ?_ counted
    rw [List.count_eq_countP]
    apply List.countP_congr
    intro n _
    simpa using only n
  · rename_i absent
    rw [List.countP_eq_zero]
    intro n _ found
    exact absent (mem_namesOf.2 ⟨n + 1, (shown n).1 (by simpa using found)⟩)

theorem Numbered.sublist (numbered : Numbered groups) (kept : others.Sublist groups) :
    Distinct others ∧ (∀ g ∈ others, 1 ≤ g.1) ∧ (namesOf others).Nodup := by
  refine ⟨?_, ?_, ?_⟩
  · exact fun g member h other same =>
      numbered.distinct_indices g (kept.subset member) h (kept.subset other) same
  · exact fun g member => numbered.positive (kept.subset member)
  · exact numbered.distinct.sublist (kept.filterMap _)

/-- The groups that a compiled text lists are those that it opens outside dropped repetitions. -/
theorem groupNames_ofText {text : List Char} {e : Expr} {f after : Flags} {m : Matcher}
    (spelled : Expr.ofText? text = .ok e) (meant : e.form f = .ok (m.form, after)) :
    m.groupNames = listed e.lasting := by
  obtain ⟨distinct, -, -⟩ := (numbered_ofText spelled).sublist (lasting_sublist e)
  exact listed_congr (mem_captures_form e meant) distinct

theorem count_groupNames {text : List Char} {e : Expr} {f after : Flags} {m : Matcher}
    (spelled : Expr.ofText? text = .ok e) (meant : e.form f = .ok (m.form, after)) (name : String) :
    m.groupNames.count (some name) = if name ∈ namesOf e.lasting then 1 else 0 := by
  obtain ⟨distinct, positive, unique⟩ := (numbered_ofText spelled).sublist (lasting_sublist e)
  rw [groupNames_ofText spelled meant, count_listed distinct positive unique]

end ScriptTypes.Pattern
