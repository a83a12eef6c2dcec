import Mathlib.Data.Finset.Card
import ScriptTypes.Registry

namespace ScriptTypes

theorem AnyDescriptor.same_iff_identity (d e : AnyDescriptor) :
    d.same e = true ↔ d.identity = e.identity := by
  simp [same, identity, and_assoc]

theorem AnyDescriptor.same_eq_decide (d e : AnyDescriptor) :
    d.same e = decide (d.identity = e.identity) := by
  rw [Bool.eq_iff_iff, same_iff_identity, decide_eq_true_iff]

namespace DescriptorSet

variable {s : DescriptorSet} {d m : AnyDescriptor} {i : Identity}

def identities (s : DescriptorSet) : List Identity := s.members.map (·.identity)

def Distinct (s : DescriptorSet) : Prop := s.identities.Nodup

def lookup (s : DescriptorSet) (i : Identity) : Option AnyDescriptor :=
  s.members.find? (·.identity = i)

theorem get_eq_lookup (s : DescriptorSet) (d : AnyDescriptor) : s.get? d = s.lookup d.identity := by
  simp only [get?, lookup, AnyDescriptor.same_eq_decide]

theorem identity_of_lookup (found : s.lookup i = some m) : m.identity = i := by
  have test := List.find?_some (p := fun m : AnyDescriptor => m.identity = i) found
  exact of_decide_eq_true test

theorem lookup_eq_none : s.lookup i = none ↔ i ∉ s.identities := by
  rw [lookup, List.find?_eq_none, identities, List.mem_map]
  simp only [decide_eq_true_eq, not_exists, not_and]

theorem lookup_isSome : (s.lookup i).isSome = true ↔ i ∈ s.identities := by
  rw [← not_iff_not, Bool.not_eq_true, Option.isSome_eq_false_iff, Option.isNone_iff_eq_none,
    lookup_eq_none]

theorem contains_iff : s.contains d = true ↔ d.identity ∈ s.identities := by
  rw [contains, get_eq_lookup, lookup_isSome]

theorem not_contains_iff : s.contains d = false ↔ d.identity ∉ s.identities := by
  rw [← Bool.not_eq_true, contains_iff]

theorem size_eq (s : DescriptorSet) : s.size = s.identities.length :=
  (List.length_map _).symm

theorem size_eq_card (distinct : s.Distinct) : s.size = s.identities.toFinset.card := by
  rw [List.toFinset_card_of_nodup distinct, size_eq]

/-! ### Adding a member -/

theorem insert_of_contains (held : s.contains d = true) : s.insert d = s := if_pos held

theorem insert_of_absent (absent : s.contains d = false) : s.insert d = ⟨s.members ++ [d]⟩ := by
  rw [insert, absent]
  rfl

theorem identities_concat (s : DescriptorSet) (d : AnyDescriptor) :
    identities ⟨s.members ++ [d]⟩ = s.identities ++ [d.identity] := List.map_append

theorem distinct_concat (distinct : s.Distinct) (absent : s.contains d = false) :
    Distinct ⟨s.members ++ [d]⟩ := by
  rw [Distinct, identities_concat]
  refine List.nodup_append.2 ⟨distinct, List.nodup_singleton _, fun i held j last => ?_⟩
  rintro rfl
  rw [List.mem_singleton.1 last] at held
  exact not_contains_iff.1 absent held

theorem lookup_concat (absent : s.contains d = false) (i : Identity) :
    lookup ⟨s.members ++ [d]⟩ i = if i = d.identity then some d else s.lookup i := by
  rw [lookup, List.find?_append]
  by_cases own : i = d.identity
  · have missing : s.members.find? (·.identity = i) = none := by
      rw [← lookup, own]
      exact lookup_eq_none.2 (not_contains_iff.1 absent)
    rw [missing, if_pos own]
    simp [own]
  · rw [if_neg own, List.find?_singleton, if_neg]
    · exact Option.or_none
    · simpa using Ne.symm own

theorem mem_insert (member : m ∈ (s.insert d).members) : m = d ∨ m ∈ s.members := by
  rw [insert] at member
  split at member
  · exact .inr member
  · rcases List.mem_append.1 member with old | new
    · exact .inr old
    · exact .inl (List.mem_singleton.1 new)

theorem distinct_insert (distinct : s.Distinct) (d : AnyDescriptor) : (s.insert d).Distinct := by
  cases held : s.contains d with
  | true =>
      rw [insert_of_contains held]
      exact distinct
  | false =>
      rw [insert_of_absent held]
      exact distinct_concat distinct held

theorem mem_identities_insert :
    i ∈ (s.insert d).identities ↔ i = d.identity ∨ i ∈ s.identities := by
  cases held : s.contains d with
  | true =>
      rw [insert_of_contains held]
      refine ⟨.inr, fun either => either.elim (fun own => ?_) id⟩
      exact own ▸ contains_iff.1 held
  | false =>
      rw [insert_of_absent held, identities_concat, List.mem_append, List.mem_singleton, or_comm]

/-! ### Putting a member in the place of another -/

theorem identities_swap (s : DescriptorSet) (d : AnyDescriptor) :
    identities ⟨s.members.map fun m => if m.same d then d else m⟩ = s.identities := by
  rw [identities, identities, List.map_map]
  refine List.map_congr_left fun m _ => ?_
  by_cases same : m.same d = true
  · simp [same, (AnyDescriptor.same_iff_identity m d).1 same]
  · simp [same]

theorem lookup_swap (held : s.contains d = true) (i : Identity) :
    lookup ⟨s.members.map fun m => if m.same d then d else m⟩ i =
      if i = d.identity then some d else s.lookup i := by
  have swapped (m : AnyDescriptor) : (if m.same d then d else m).identity = m.identity := by
    by_cases same : m.same d = true
    · rw [if_pos same, (AnyDescriptor.same_iff_identity m d).1 same]
    · rw [if_neg same]
  rw [lookup, List.find?_map]
  simp only [Function.comp_def, swapped]
  rw [← lookup]
  by_cases own : i = d.identity
  · rw [if_pos own, own]
    obtain ⟨m, found⟩ := Option.isSome_iff_exists.1 (lookup_isSome.2 (contains_iff.1 held))
    have same : m.same d = true :=
      (AnyDescriptor.same_iff_identity m d).2 (identity_of_lookup found)
    rw [found, Option.map_some, if_pos same]
  · rw [if_neg own]
    cases found : s.lookup i with
    | none => rfl
    | some m =>
        have apart : ¬ m.same d = true := by
          rw [AnyDescriptor.same_iff_identity, identity_of_lookup found]
          exact own
        rw [Option.map_some, if_neg apart]

theorem mem_replace (member : m ∈ (s.replace d).members) : m = d ∨ m ∈ s.members := by
  rw [replace] at member
  split at member
  · obtain ⟨old, held, rfl⟩ := List.mem_map.1 member
    by_cases same : old.same d = true
    · exact .inl (if_pos same)
    · rw [if_neg same]
      exact .inr held
  · rcases List.mem_append.1 member with old | new
    · exact .inr old
    · exact .inl (List.mem_singleton.1 new)

theorem distinct_replace (distinct : s.Distinct) (d : AnyDescriptor) : (s.replace d).Distinct := by
  unfold replace
  split
  · rw [Distinct, identities_swap]
    exact distinct
  · rename_i absent
    exact distinct_concat distinct (Bool.not_eq_true _ ▸ absent)

/-! ### Taking a member away -/

theorem mem_erase (member : m ∈ (s.erase d).members) : m ∈ s.members :=
  (List.mem_filter.1 member).1

theorem distinct_erase (distinct : s.Distinct) (d : AnyDescriptor) : (s.erase d).Distinct :=
  distinct.sublist (List.filter_sublist.map _)

/-! ### What is found afterwards -/

theorem lookup_insert (s : DescriptorSet) (d : AnyDescriptor) (i : Identity) :
    (s.insert d).lookup i =
      if i = d.identity ∧ i ∉ s.identities then some d else s.lookup i := by
  cases held : s.contains d with
  | true =>
      rw [insert_of_contains held, if_neg]
      rintro ⟨rfl, absent⟩
      exact absent (contains_iff.1 held)
  | false =>
      have absent := not_contains_iff.1 held
      rw [insert_of_absent held, lookup_concat held]
      by_cases own : i = d.identity
      · rw [if_pos own, if_pos ⟨own, own ▸ absent⟩]
      · rw [if_neg own, if_neg fun both => own both.1]

theorem lookup_replace (s : DescriptorSet) (d : AnyDescriptor) (i : Identity) :
    (s.replace d).lookup i = if i = d.identity then some d else s.lookup i := by
  unfold replace
  split
  · rename_i held
    exact lookup_swap held i
  · rename_i absent
    exact lookup_concat (Bool.not_eq_true _ ▸ absent) i

theorem lookup_erase (s : DescriptorSet) (d : AnyDescriptor) (i : Identity) :
    (s.erase d).lookup i = if i = d.identity then none else s.lookup i := by
  rw [lookup, erase, List.find?_filter]
  by_cases own : i = d.identity
  · rw [if_pos own, List.find?_eq_none]
    intro m _
    simp [AnyDescriptor.same_eq_decide, own]
  · rw [if_neg own, lookup]
    refine congrArg (List.find? · s.members) (funext fun m => ?_)
    by_cases here : m.identity = i
    · simp [here, AnyDescriptor.same_eq_decide, own]
    · simp [here]

end DescriptorSet

end ScriptTypes
