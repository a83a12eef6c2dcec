import ScriptTypes.Proofs.Collections.DescriptorSet
import ScriptTypes.Proofs.Collections.Latest
import ScriptTypes.Proofs.Collections.SortedMap

/-!
What a registry knows of all that was registered: which identities there were, and for each name
the last descriptor that was new when it came. All else is lost, the order of names included.
-/

namespace ScriptTypes

def Fresh (history : List AnyDescriptor) (d : AnyDescriptor) : Prop :=
  d.identity ∉ history.map (·.identity)

instance (history : List AnyDescriptor) (d : AnyDescriptor) : Decidable (Fresh history d) :=
  inferInstanceAs (Decidable (_ ∉ _))

theorem fresh_iff {history : List AnyDescriptor} {d : AnyDescriptor} :
    Fresh history d ↔ ∀ e ∈ history,
      ¬ (e.valueClass = d.valueClass ∧ e.baseName = d.baseName ∧ e.source = d.source) := by
  simp [Fresh, AnyDescriptor.identity]

/-- The last descriptor of a history with a name that was fresh when it came. -/
def LastFresh (name : String) : List AnyDescriptor → AnyDescriptor → Prop :=
  Latest (fun before e d => e = d ∧ Fresh before e ∧ e.baseName = name)
    (fun before e => Fresh before e ∧ e.baseName = name)

theorem LastFresh.mem {name : String} {history : List AnyDescriptor} {d : AnyDescriptor}
    (last : LastFresh name history d) : d ∈ history ∧ d.baseName = name := by
  obtain ⟨before, e, after, rfl, ⟨rfl, -, named⟩, -⟩ := last
  exact ⟨List.mem_append_right _ List.mem_cons_self, named⟩

theorem lastFresh_concat_of_seen {name : String} {history : List AnyDescriptor}
    {d e : AnyDescriptor} (seen : ¬ Fresh history e) :
    LastFresh name (history ++ [e]) d ↔ LastFresh name history d := by
  rw [LastFresh, Latest.concat_iff]
  constructor
  · rintro (⟨-, fresh, -⟩ | ⟨-, last⟩)
    · exact absurd fresh seen
    · exact last
  · exact fun last => .inr ⟨fun both => seen both.1, last⟩

theorem lastFresh_concat_of_fresh {name : String} {history : List AnyDescriptor}
    {d e : AnyDescriptor} (fresh : Fresh history e) :
    LastFresh name (history ++ [e]) d ↔
      if name = e.baseName then e = d else LastFresh name history d := by
  rw [LastFresh, Latest.concat_iff]
  by_cases own : name = e.baseName
  · rw [if_pos own]
    constructor
    · rintro (⟨same, -⟩ | ⟨kept, -⟩)
      · exact same
      · exact absurd ⟨fresh, own.symm⟩ kept
    · exact fun same => .inl ⟨same, fresh, own.symm⟩
  · rw [if_neg own]
    constructor
    · rintro (⟨-, -, named⟩ | ⟨-, last⟩)
      · exact absurd named.symm own
      · exact last
    · exact fun last => .inr ⟨fun both => own both.2.symm, last⟩

namespace Registry

variable {r : Registry} {history : List AnyDescriptor} {d e : AnyDescriptor} {name word : String}

def registerAll (r : Registry) : List AnyDescriptor → List Bool × Registry
  | [] => ([], r)
  | d :: rest =>
    let (fresh, last) := (r.register d).registerAll rest
    ((!r.seen.contains d) :: fresh, last)

theorem register_of_seen (seen : r.seen.contains d = true) : r.register d = r := if_pos seen

theorem register_of_new (new : r.seen.contains d = false) :
    r.register d = ⟨r.seen.insert d, SortedMap.put d.baseName d r.byName⟩ := by
  rw [register, new]
  rfl

structure Records (r : Registry) (history : List AnyDescriptor) : Prop where
  distinct : r.seen.Distinct
  seen : ∀ i, i ∈ r.seen.identities ↔ i ∈ history.map (·.identity)
  sorted : r.byName.Sorted
  names : ∀ n, n ∈ r.byName.keys ↔ n ∈ history.map (·.baseName)
  entry : ∀ n d, r.find? n = some d ↔ LastFresh n history d

theorem records_empty : Records empty [] where
  distinct := List.nodup_nil
  seen := fun _ => Iff.rfl
  sorted := List.Pairwise.nil
  names := fun _ => Iff.rfl
  entry := fun _ _ => ⟨(nomatch ·), fun last => (Latest.not_nil last).elim⟩

theorem Records.contains_eq (records : Records r history) (d : AnyDescriptor) :
    r.seen.contains d = !decide (Fresh history d) := by
  rw [Bool.eq_iff_iff, DescriptorSet.contains_iff, records.seen]
  simp [Fresh]

theorem Records.register_seen (records : Records r history) (seen : ¬ Fresh history d) :
    r.register d = r :=
  register_of_seen (by rw [records.contains_eq, decide_eq_false seen]; rfl)

theorem Records.register (records : Records r history) (d : AnyDescriptor) :
    Records (r.register d) (history ++ [d]) := by
  by_cases fresh : Fresh history d
  · have new : r.seen.contains d = false := by
      rw [records.contains_eq, decide_eq_true fresh]
      rfl
    rw [register_of_new new]
    refine ⟨DescriptorSet.distinct_insert records.distinct d, fun i => ?_,
      SortedMap.sorted_put records.sorted _ _, fun n => ?_, fun n e => ?_⟩
    · rw [DescriptorSet.mem_identities_insert, records.seen, List.map_append, List.mem_append,
        List.map_singleton, List.mem_singleton, or_comm]
    · rw [SortedMap.mem_keys_put, records.names, List.map_append, List.mem_append,
        List.map_singleton, List.mem_singleton, or_comm]
    · rw [lastFresh_concat_of_fresh fresh, find?, SortedMap.get_put]
      split
      · exact Option.some_inj
      · exact records.entry n e
  · rw [records.register_seen fresh]
    have held : d.identity ∈ history.map (·.identity) := not_not.1 fresh
    refine ⟨records.distinct, fun i => ?_, records.sorted, fun n => ?_, fun n e => ?_⟩
    · rw [records.seen, List.map_append, List.mem_append, List.map_singleton, List.mem_singleton]
      refine ⟨.inl, fun either => either.elim id fun own => ?_⟩
      rw [own]
      exact held
    · rw [records.names, List.map_append, List.mem_append, List.map_singleton, List.mem_singleton]
      refine ⟨.inl, fun either => either.elim id fun own => ?_⟩
      obtain ⟨other, member, same⟩ := List.mem_map.1 held
      have named : other.baseName = d.baseName := congrArg Identity.baseName same
      rw [own, ← named]
      exact List.mem_map_of_mem member
    · rw [records.entry, lastFresh_concat_of_seen fresh]

theorem Records.registerAll (records : Records r history) (ds : List AnyDescriptor) :
    Records (r.registerAll ds).2 (history ++ ds) := by
  induction ds generalizing r history with
  | nil =>
      rw [List.append_nil]
      exact records
  | cons d rest ih =>
      rw [List.append_cons]
      exact ih (records.register d)

theorem records_all (ds : List AnyDescriptor) : Records (empty.registerAll ds).2 ds :=
  records_empty.registerAll ds

/-! ### Sizes -/

theorem Records.size_seen (records : Records r history) :
    r.seen.size = (history.map (·.identity)).toFinset.card := by
  rw [DescriptorSet.size_eq_card records.distinct]
  refine congrArg Finset.card (Finset.ext fun i => ?_)
  rw [List.mem_toFinset, List.mem_toFinset, records.seen]

theorem Records.size_names (records : Records r history) :
    r.byName.length = (history.map (·.baseName)).toFinset.card := by
  have length : r.byName.length = r.byName.keys.length := (List.length_map _).symm
  rw [length, ← List.toFinset_card_of_nodup (SortedMap.nodup_keys records.sorted)]
  refine congrArg Finset.card (Finset.ext fun n => ?_)
  rw [List.mem_toFinset, List.mem_toFinset, records.names]

theorem count_fresh (r : Registry) (ds : List AnyDescriptor) :
    (r.registerAll ds).1.count true + r.seen.size = (r.registerAll ds).2.seen.size := by
  induction ds generalizing r with
  | nil => exact Nat.zero_add _
  | cons d rest ih =>
      have step := ih (r.register d)
      cases known : r.seen.contains d with
      | true =>
          rw [register_of_seen known] at step
          simpa [Registry.registerAll, known, register_of_seen known] using step
      | false =>
          have grown : (r.register d).seen.size = r.seen.size + 1 := by
            rw [register_of_new known, DescriptorSet.insert_of_absent known]
            simp [DescriptorSet.size]
          rw [grown] at step
          simp only [Registry.registerAll, known, Bool.not_false, List.count_cons_self]
          omega

/-! ### Words -/

/-- The word is recognized by the first name, in order, whose entry recognizes it. -/
theorem findWord_eq_some (sorted : r.byName.Sorted) {plural : Bool} :
    r.findWord? word = some (name, plural) ↔
      ∃ d, r.find? name = some d ∧ d.recognize? word = some plural ∧
        ∀ earlier < name, ∀ e, r.find? earlier = some e → e.recognize? word = none := by
  obtain ⟨seen, byName⟩ := r
  simp only [findWord?, find?] at *
  clear seen
  -- on the sorted entries: whatever stands behind the first one has a larger name
  induction byName with
  | nil => simp [SortedMap.get?]
  | cons first rest ih =>
      obtain ⟨key, d⟩ := first
      obtain ⟨least, sorted_rest⟩ := List.pairwise_cons.1 sorted
      have above {n : String} {e : AnyDescriptor} (found : SortedMap.get? rest n = some e) :
          key < n := least n (List.mem_map_of_mem (SortedMap.mem_of_get found))
      rw [List.findSome?_cons]
      cases recognized : d.recognize? word with
      | some found =>
          simp only [Option.map_some, Option.some.injEq, Prod.mk.injEq, SortedMap.get_cons]
          constructor
          · rintro ⟨rfl, rfl⟩
            refine ⟨d, if_pos rfl, recognized, fun earlier below e held => ?_⟩
            rw [if_neg below.ne] at held
            exact absurd (above held) below.not_gt
          · rintro ⟨e, held, taken, none_before⟩
            split at held
            · rename_i same
              cases held
              rw [recognized] at taken
              exact ⟨same.symm, Option.some_inj.1 taken⟩
            · have missed := none_before key (above held) d (if_pos rfl)
              rw [recognized] at missed
              cases missed
      | none =>
          simp only [Option.map_none, SortedMap.get_cons]
          rw [ih sorted_rest]
          constructor
          · rintro ⟨e, held, taken, none_before⟩
            refine ⟨e, by rw [if_neg (above held).ne']; exact held, taken, ?_⟩
            intro earlier below other there
            split at there
            · cases there
              exact recognized
            · exact none_before earlier below other there
          · rintro ⟨e, held, taken, none_before⟩
            split at held
            · cases held
              rw [recognized] at taken
              cases taken
            · refine ⟨e, held, taken, fun earlier below other there => ?_⟩
              refine none_before earlier below other ?_
              rw [if_neg (above there).ne']
              exact there

end Registry

end ScriptTypes
