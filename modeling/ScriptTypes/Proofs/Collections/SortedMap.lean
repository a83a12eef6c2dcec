import Mathlib.Data.List.Sort
import Mathlib.Data.String.Basic
import ScriptTypes.Registry

namespace ScriptTypes.SortedMap

variable {α : Type} {key name : String} {value entry : α} {m : SortedMap α}

def keys (m : SortedMap α) : List String := m.map (·.1)

def Sorted (m : SortedMap α) : Prop := m.keys.Pairwise (· < ·)

theorem mem_of_get (found : m.get? key = some value) : (key, value) ∈ m := by
  obtain ⟨before, after, split, -⟩ := List.lookup_eq_some_iff.1 found
  rw [split]
  exact List.mem_append_right _ List.mem_cons_self

theorem get_eq_none : m.get? name = none ↔ name ∉ m.keys := by
  rw [get?, List.lookup_eq_none_iff, keys, List.mem_map]
  constructor
  · rintro absent ⟨held, member, rfl⟩
    exact bne_iff_ne.1 (absent held member) rfl
  · intro absent held member
    exact bne_iff_ne.2 fun same => absent ⟨held, member, same.symm⟩

theorem get_cons (key : String) (value : α) (m : SortedMap α) (name : String) :
    get? ((key, value) :: m) name = if name = key then some value else m.get? name := by
  rw [get?, List.lookup_cons]
  by_cases same : name = key
  · rw [beq_iff_eq.2 same, if_pos same]
  · rw [beq_eq_false_iff_ne.2 same, if_neg same, get?]

theorem get_put (key : String) (value : α) (m : SortedMap α) (name : String) :
    (put key value m).get? name = if name = key then some value else m.get? name := by
  induction m with
  | nil => exact get_cons key value [] name
  | cons first rest ih =>
      obtain ⟨k, v⟩ := first
      rw [put]
      split
      · rename_i same
        rw [get_cons, get_cons, same]
        split <;> rfl
      split
      · exact get_cons key value _ name
      · rename_i other _
        rw [get_cons, get_cons, ih]
        by_cases here : name = k
        · rw [if_pos here, if_pos here, if_neg fun same => other (same.symm.trans here)]
        · rw [if_neg here, if_neg here]

theorem mem_put (member : (name, entry) ∈ put key value m) :
    (name, entry) = (key, value) ∨ (name, entry) ∈ m := by
  induction m with
  | nil => exact .inl (List.mem_singleton.1 member)
  | cons first rest ih =>
      rw [put] at member
      split at member
      · rcases List.mem_cons.1 member with here | later
        · exact .inl here
        · exact .inr (List.mem_cons_of_mem first later)
      split at member
      · exact List.mem_cons.1 member
      · rcases List.mem_cons.1 member with here | later
        · exact .inr (here ▸ List.mem_cons_self)
        · exact (ih later).imp id (List.mem_cons_of_mem first)

theorem mem_keys_put : name ∈ (put key value m).keys ↔ name = key ∨ name ∈ m.keys := by
  rw [← not_iff_not, not_or, ← get_eq_none, ← get_eq_none, get_put]
  by_cases same : name = key <;> simp [same]

theorem sorted_put (sorted : m.Sorted) (key : String) (value : α) : (put key value m).Sorted := by
  induction m with
  | nil => exact List.pairwise_singleton _ _
  | cons first rest ih =>
      obtain ⟨k, v⟩ := first
      obtain ⟨least, sorted_rest⟩ := List.pairwise_cons.1 sorted
      rw [put]
      split
      · rename_i same
        rw [same]
        exact sorted
      split
      · rename_i below
        refine List.pairwise_cons.2 ⟨fun other member => ?_, sorted⟩
        rcases List.mem_cons.1 member with rfl | later
        · exact below
        · exact below.trans (least other later)
      · rename_i other above
        refine List.pairwise_cons.2 ⟨fun name member => ?_, ih sorted_rest⟩
        rcases mem_keys_put.1 member with rfl | later
        · exact lt_of_le_of_ne (not_lt.1 above) (Ne.symm other)
        · exact least name later

theorem nodup_keys (sorted : m.Sorted) : m.keys.Nodup := sorted.imp ne_of_lt

theorem mem_iff_get (sorted : m.Sorted) : (name, entry) ∈ m ↔ m.get? name = some entry := by
  refine ⟨fun member => ?_, mem_of_get⟩
  induction m with
  | nil => cases member
  | cons first rest ih =>
      obtain ⟨k, v⟩ := first
      obtain ⟨least, sorted_rest⟩ := List.pairwise_cons.1 sorted
      rw [get_cons]
      rcases List.mem_cons.1 member with here | later
      · cases here
        exact if_pos rfl
      · have above : k < name := least name (List.mem_map_of_mem later)
        rw [if_neg above.ne']
        exact ih sorted_rest later

theorem eq_of_get {n : SortedMap α} (sorted_m : m.Sorted) (sorted_n : n.Sorted)
    (alike : ∀ key, m.get? key = n.get? key) : m = n := by
  have ordered {m : SortedMap α} (sorted : m.Sorted) : m.Pairwise fun a b => a.1 < b.1 :=
    List.pairwise_map.1 sorted
  have perm : m.Perm n := by
    refine (List.perm_ext_iff_of_nodup (nodup_keys sorted_m).of_map (nodup_keys sorted_n).of_map).2 ?_
    rintro ⟨key, value⟩
    rw [mem_iff_get sorted_m, mem_iff_get sorted_n, alike]
  refine perm.eq_of_pairwise (fun a b _ _ below above => ?_) (ordered sorted_m) (ordered sorted_n)
  exact absurd (below.trans above) (lt_irrefl _)

def mapValues {β : Type} (f : α → β) (m : SortedMap α) : SortedMap β :=
  List.map (fun e => (e.1, f e.2)) m

theorem keys_mapValues {β : Type} (f : α → β) (m : SortedMap α) : (m.mapValues f).keys = m.keys :=
  List.map_map

theorem get_mapValues {β : Type} (f : α → β) (m : SortedMap α) (key : String) :
    (m.mapValues f).get? key = (m.get? key).map f := by
  induction m with
  | nil => rfl
  | cons first rest ih =>
      obtain ⟨k, v⟩ := first
      rw [get_cons, apply_ite (Option.map f), ← ih]
      exact get_cons k (f v) (mapValues f rest) key

theorem erase_of_absent (absent : m.get? key = none) : m.erase key = m := by
  refine List.filter_eq_self.2 fun held member => decide_eq_true fun same => ?_
  exact get_eq_none.1 absent (same ▸ List.mem_map_of_mem member)

end ScriptTypes.SortedMap
