import ScriptTypes.Pattern.Form

namespace ScriptTypes.Pattern

namespace Form

theorem commonLength_le (first other : List Form) :
    commonLength first other ≤ first.length ∧ commonLength first other ≤ other.length := by
  fun_induction commonLength first other with
  | case1 f fs gs ih => simpa using ih
  | case2 f fs g gs apart => simp
  | case3 first other short => simp

theorem take_commonLength {first other : List Form} {n : Nat}
    (within : n ≤ commonLength first other) :
    other.take n = first.take n := by
  fun_induction commonLength first other generalizing n with
  | case1 f fs gs ih =>
      cases n with
      | zero => rfl
      | succ n => rw [List.take_succ_cons, List.take_succ_cons, ih (by omega)]
  | case2 f fs g gs apart =>
      obtain rfl : n = 0 := by omega
      rfl
  | case3 first other short =>
      obtain rfl : n = 0 := by omega
      rfl

theorem foldl_min_attained {α : Type} (measure : α → Nat) (others : List α) (bound : Nat) :
    let least := others.foldl (fun n other => min n (measure other)) bound
    least ≤ bound ∧ (∀ other ∈ others, least ≤ measure other) ∧
      (least = bound ∨ ∃ other ∈ others, least = measure other) := by
  induction others generalizing bound with
  | nil => simp
  | cons other others ih =>
      obtain ⟨below, least, attained⟩ := ih (min bound (measure other))
      simp only [List.foldl_cons, List.forall_mem_cons]
      refine ⟨by omega, ⟨by omega, least⟩, ?_⟩
      rcases attained with same | found
      · rcases Nat.le_total bound (measure other) with le | le
        · exact .inl (by omega)
        · exact .inr ⟨other, List.mem_cons_self, by omega⟩
      · obtain ⟨found, member, same⟩ := found
        exact .inr ⟨found, List.mem_cons_of_mem other member, same⟩

theorem take_sharedLength {lists : List (List Form)} {l : List Form} (member : l ∈ lists) :
    sharedLength lists ≤ l.length ∧
      l.take (sharedLength lists) = (lists.headD []).take (sharedLength lists) := by
  cases lists with
  | nil => cases member
  | cons first others =>
      simp only [sharedLength, List.headD_cons]
      split
      · exact ⟨Nat.zero_le _, rfl⟩
      · obtain ⟨bounded, least, -⟩ := foldl_min_attained (commonLength first) others first.length
        rcases List.mem_cons.1 member with rfl | later
        · exact ⟨bounded, rfl⟩
        · have within := least l later
          exact ⟨Nat.le_trans within (commonLength_le first l).2, take_commonLength within⟩

theorem take_parts {all : List Form} {n : Nat} (shared : sharedLength (all.map parts) = n)
    {f : Form} (member : f ∈ all) :
    f.parts.take n = ((all.head?.map parts).getD []).take n := by
  have taken := (take_sharedLength (List.mem_map_of_mem (f := parts) member)).2
  rw [shared] at taken
  rw [taken]
  cases all <;> rfl

theorem captures_parts (f : Form) : f.parts.flatMap captures = f.captures := by
  induction f with
  | seq first rest ih_first ih_rest => rw [parts, List.flatMap_cons, ih_rest, captures]
  | _ => exact List.append_nil _

theorem captures_branches (f : Form) : f.branches.flatMap captures = f.captures := by
  induction f with
  | alt first rest ih_first ih_rest => rw [branches, List.flatMap_cons, ih_rest, captures]
  | _ => exact List.append_nil _

theorem captures_joinLiterals (forms : List Form) :
    (joinLiterals forms).flatMap captures = forms.flatMap captures := by
  fun_induction joinLiterals forms with
  | case1 => rfl
  | case2 rest ih => rw [ih, List.flatMap_cons]; rfl
  | case3 text rest more tail joined ih =>
      rw [joined] at ih
      rw [List.flatMap_cons, List.flatMap_cons, ← ih]
      rfl
  | case4 text rest joined ih => rw [List.flatMap_cons, ih, List.flatMap_cons]
  | case5 f rest filled plain ih => rw [List.flatMap_cons, ih, List.flatMap_cons]

theorem captures_seqOf (forms : List Form) : (seqOf forms).captures = forms.flatMap captures := by
  fun_induction seqOf forms with
  | case1 => rfl
  | case2 f => exact (List.append_nil _).symm
  | case3 f rest more ih => rw [captures, ih, List.flatMap_cons]

theorem captures_altOf (forms : List Form) : (altOf forms).captures = forms.flatMap captures := by
  fun_induction altOf forms with
  | case1 => rfl
  | case2 f => exact (List.append_nil _).symm
  | case3 f rest more ih => rw [captures, ih, List.flatMap_cons]

theorem captures_concat (forms : List Form) : (concat forms).captures = forms.flatMap captures := by
  rw [concat, captures_seqOf, captures_joinLiterals, List.flatMap_assoc]
  exact congrArg (forms.flatMap ·) (funext captures_parts)

theorem captures_ofSet (alphabet : Alphabet) (set : Unicode.CharSet) :
    (ofSet alphabet set).captures = [] := by
  unfold ofSet
  split
  · rfl
  · split <;> rfl

theorem unionSet_of_merged {forms : List Form} {set : Unicode.CharSet}
    (merged : mergedSet? forms = some set) : unionSet? .empty forms = some set := by
  unfold mergedSet? at merged
  split at merged
  · exact merged
  · cases merged

theorem captures_of_unionSet {forms : List Form} {known set : Unicode.CharSet}
    (union : unionSet? known forms = some set) : forms.flatMap captures = [] := by
  induction forms generalizing known with
  | nil => rfl
  | cons f rest ih =>
      simp only [unionSet?, bind, Option.bind_eq_some_iff] at union
      obtain ⟨own, asSet, joined⟩ := union
      rw [List.flatMap_cons, ih joined, List.append_nil]
      unfold asSet? at asSet
      split at asSet
      · rfl
      · rfl
      · cases asSet

theorem captures_flat (forms : List Form) :
    (forms.flatMap branches).flatMap captures = forms.flatMap captures := by
  rw [List.flatMap_assoc]
  exact congrArg (forms.flatMap ·) (funext captures_branches)

/-- Taking out what all alternatives begin with loses no group and adds none. -/
theorem mem_captures_alternationOf (fuel : Nat) (forms : List Form) (g : Nat × Option String) :
    g ∈ (alternationOf fuel forms).captures ↔ g ∈ forms.flatMap captures := by
  fun_induction alternationOf fuel forms with
  | case1 fuel forms nothing =>
      rw [← captures_flat forms, nothing]
      rfl
  | case2 fuel forms f alone => rw [← captures_flat forms, alone, List.flatMap_singleton]
  | case3 fuel forms set empty single merged =>
      rw [← captures_flat forms, captures_of_unionSet (unionSet_of_merged merged), captures_ofSet]
  | case4 forms fuel n empty single plain shared found common rests ih =>
      -- every alternative is the common beginning and what is left of it
      have divide (f : Form) (member : f ∈ forms.flatMap branches) :
          g ∈ f.captures ↔ g ∈ common.flatMap captures ∨
            g ∈ (concat (f.parts.drop (n + 1))).captures := by
        have begins : f.parts.take (n + 1) = common := take_parts found member
        have whole := congrArg (List.flatMap captures) (List.take_append_drop (n + 1) f.parts)
        rw [List.flatMap_append, begins, captures_parts] at whole
        rw [← whole, List.mem_append, captures_concat]
      rw [← captures_flat forms, captures_concat, List.flatMap_append, List.mem_append,
        List.flatMap_singleton, ih]
      constructor
      · rintro (shared | rest)
        · obtain ⟨first, member⟩ := List.exists_mem_of_ne_nil _ empty
          exact List.mem_flatMap.2 ⟨first, member, (divide first member).2 (.inl shared)⟩
        · obtain ⟨_, mapped, captured⟩ := List.mem_flatMap.1 rest
          obtain ⟨f, member, rfl⟩ := List.mem_map.1 mapped
          exact List.mem_flatMap.2 ⟨f, member, (divide f member).2 (.inr captured)⟩
      · intro captured
        obtain ⟨f, member, captured⟩ := List.mem_flatMap.1 captured
        rcases (divide f member).1 captured with shared | rest
        · exact .inl shared
        · exact .inr (List.mem_flatMap.2 ⟨_, List.mem_map_of_mem member, rest⟩)
  | case5 fuel forms empty single plain shared stopped =>
      rw [← captures_flat forms, captures_altOf]

end Form

end ScriptTypes.Pattern
