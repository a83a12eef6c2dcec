import Mathlib.Data.Finmap
import ScriptTypes.Proofs.Collections.DescriptorSet
import ScriptTypes.Proofs.Collections.Listing

namespace ScriptTypes

abbrev Snapshots := Finmap fun _ : Identity => AnyDescriptor

def Snapshots.keep (m : Snapshots) (d : AnyDescriptor) : Snapshots :=
  if d.identity ∈ m then m else m.insert d.identity d

def Snapshots.renew (m : Snapshots) (d : AnyDescriptor) : Snapshots := m.insert d.identity d

def Snapshots.forget (m : Snapshots) (d : AnyDescriptor) : Snapshots := m.erase d.identity

namespace Snapshots

variable {m : Snapshots} {d : AnyDescriptor} {i : Identity}

theorem lookup_renew (m : Snapshots) (d : AnyDescriptor) (i : Identity) :
    (m.renew d).lookup i = if i = d.identity then some d else m.lookup i := by
  split
  · rename_i own
    rw [own]
    exact Finmap.lookup_insert m
  · rename_i other
    exact Finmap.lookup_insert_of_ne m other

theorem lookup_forget (m : Snapshots) (d : AnyDescriptor) (i : Identity) :
    (m.forget d).lookup i = if i = d.identity then none else m.lookup i := by
  split
  · rename_i own
    rw [own]
    exact Finmap.lookup_erase _ m
  · rename_i other
    exact Finmap.lookup_erase_ne other

theorem keep_of_mem (held : d.identity ∈ m) : m.keep d = m := if_pos held

theorem keep_of_absent (absent : d.identity ∉ m) : m.keep d = m.renew d := if_neg absent

end Snapshots

namespace DescriptorSet

variable {s : DescriptorSet} {m : Snapshots} {d : AnyDescriptor} {i : Identity}

structure Shows (s : DescriptorSet) (m : Snapshots) : Prop where
  distinct : s.Distinct
  lookup : ∀ i, s.lookup i = m.lookup i

theorem shows_empty : empty.Shows ∅ where
  distinct := List.nodup_nil
  lookup := by
    intro i
    rw [Finmap.lookup_empty]
    rfl

namespace Shows

theorem mem_iff (shows_m : s.Shows m) : i ∈ s.identities ↔ i ∈ m := by
  rw [← lookup_isSome, shows_m.lookup, Finmap.lookup_isSome]

theorem contains_eq (shows_m : s.Shows m) (d : AnyDescriptor) :
    s.contains d = decide (d.identity ∈ m) := by
  rw [Bool.eq_iff_iff, contains_iff, shows_m.mem_iff, decide_eq_true_iff]

theorem get_eq (shows_m : s.Shows m) (d : AnyDescriptor) : s.get? d = m.lookup d.identity := by
  rw [get_eq_lookup, shows_m.lookup]

theorem identities_eq (shows_m : s.Shows m) : (s.identities : Multiset Identity) = m.keys.val := by
  refine (Multiset.Nodup.ext (Multiset.coe_nodup.2 shows_m.distinct) m.keys.nodup).2 fun i => ?_
  rw [Multiset.mem_coe, shows_m.mem_iff, Finset.mem_val, Finmap.mem_keys]

theorem size_eq (shows_m : s.Shows m) : s.size = m.keys.card := by
  rw [DescriptorSet.size_eq, ← Multiset.coe_card, shows_m.identities_eq, Finset.card_val]

theorem keep (shows_m : s.Shows m) (d : AnyDescriptor) : (s.insert d).Shows (m.keep d) where
  distinct := distinct_insert shows_m.distinct d
  lookup := by
    intro i
    rw [lookup_insert, shows_m.lookup]
    by_cases held : d.identity ∈ m
    · rw [Snapshots.keep_of_mem held, if_neg]
      rintro ⟨rfl, absent⟩
      exact absent (shows_m.mem_iff.2 held)
    · rw [Snapshots.keep_of_absent held, Snapshots.lookup_renew]
      refine if_congr (and_iff_left_of_imp ?_) rfl rfl
      rintro rfl
      exact mt shows_m.mem_iff.1 held

theorem renew (shows_m : s.Shows m) (d : AnyDescriptor) : (s.replace d).Shows (m.renew d) where
  distinct := distinct_replace shows_m.distinct d
  lookup := by
    intro i
    rw [lookup_replace, shows_m.lookup, Snapshots.lookup_renew]

theorem forget (shows_m : s.Shows m) (d : AnyDescriptor) : (s.erase d).Shows (m.forget d) where
  distinct := distinct_erase shows_m.distinct d
  lookup := by
    intro i
    rw [lookup_erase, shows_m.lookup, Snapshots.lookup_forget]

end Shows

theorem Shows.listed (shows_m : s.Shows m) :
    let rows := (s.members.map Listing.of).mergeSort Listing.le
    rows.Pairwise (fun a b => Listing.le a b = true) ∧
      (rows : Multiset Listing) = m.keys.val.map Identity.listing := by
  intro rows
  refine ⟨List.pairwise_mergeSort Listing.le_trans' Listing.le_total' _, ?_⟩
  have perm : rows.Perm (s.identities.map Identity.listing) := by
    rw [identities, List.map_map]
    exact List.mergeSort_perm _ _
  rw [← shows_m.identities_eq, Multiset.map_coe]
  exact Multiset.coe_eq_coe.2 perm

end DescriptorSet

end ScriptTypes
