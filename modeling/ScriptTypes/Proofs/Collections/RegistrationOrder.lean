import ScriptTypes.Proofs.Descriptor.Identity
import ScriptTypes.Proofs.Descriptor.Recognition

/-!
The order in which descriptors are registered. It decides which of several that are the same is
kept, and which of several under one name is found; but where a name has one identity only, nothing
that a registry answers from identities can tell one order from another.
-/

namespace ScriptTypes

/-- Descriptors with one source have one matcher. -/
theorem AnyDescriptor.matcher_of_source {d e : AnyDescriptor} (made_d : d.IsMade)
    (made_e : e.IsMade) (same : d.source = e.source) : d.matcher = e.matcher := by
  obtain ⟨_, _, _, made_d⟩ := made_d
  obtain ⟨_, _, _, made_e⟩ := made_e
  refine matcher_ext same ?_
  have read := made_d.formOf_source
  rw [show d.descriptor.source = e.descriptor.source from same, made_e.formOf_source] at read
  exact (Except.ok.inj read).symm

namespace Registry

variable {r q : Registry} {ds es : List AnyDescriptor}

theorem Records.identities_perm (records : Records r ds) (other : Records q es)
    (same : ∀ i, i ∈ ds.map (·.identity) ↔ i ∈ es.map (·.identity)) :
    r.seen.identities.Perm q.seen.identities := by
  refine (List.perm_ext_iff_of_nodup records.distinct other.distinct).2 fun i => ?_
  rw [records.seen, other.seen, same]

theorem Records.mapValues_eq {β : Type} {f : AnyDescriptor → β} (records : Records r ds)
    (other : Records q es) (names : ∀ n, n ∈ ds.map (·.baseName) ↔ n ∈ es.map (·.baseName))
    (alike : ∀ d ∈ ds, ∀ e ∈ es, d.baseName = e.baseName → f d = f e) :
    r.byName.mapValues f = q.byName.mapValues f := by
  have sorted {m : SortedMap AnyDescriptor} (sorted : m.Sorted) : (m.mapValues f).Sorted := by
    rw [SortedMap.Sorted, SortedMap.keys_mapValues]
    exact sorted
  refine SortedMap.eq_of_get (sorted records.sorted) (sorted other.sorted) fun name => ?_
  rw [SortedMap.get_mapValues, SortedMap.get_mapValues]
  have absent : r.byName.get? name = none ↔ q.byName.get? name = none := by
    rw [SortedMap.get_eq_none, SortedMap.get_eq_none, records.names, other.names, names]
  cases held : r.byName.get? name with
  | none => rw [absent.1 held]
  | some d =>
      cases there : q.byName.get? name with
      | none => rw [absent.2 there] at held; cases held
      | some e =>
          obtain ⟨member_d, named_d⟩ := ((records.entry name d).1 held).mem
          obtain ⟨member_e, named_e⟩ := ((other.entry name e).1 there).mem
          exact congrArg some (alike d member_d e member_e (named_d.trans named_e.symm))

theorem listing_eq (r : Registry) : r.listing = (r.byName.mapValues Listing.of).map (·.2) := by
  rw [SortedMap.mapValues, List.map_map]
  rfl

theorem findWord_eq (r : Registry) (word : String) :
    r.findWord? word = (r.byName.mapValues (·.recognize? word)).findSome? fun e =>
      e.2.map fun plural => (e.1, plural) := by
  rw [findWord?, SortedMap.mapValues, List.findSome?_map]
  rfl

theorem Records.findWord_iff (records : Records r ds) {word name : String} {plural : Bool}
    (alike : ∀ d ∈ ds, ∀ e ∈ ds, d.baseName = e.baseName → d.recognize? word = e.recognize? word) :
    r.findWord? word = some (name, plural) ↔
      ∃ d ∈ ds, d.baseName = name ∧ d.recognize? word = some plural ∧
        ∀ e ∈ ds, e.baseName < name → e.recognize? word = none := by
  -- each descriptor of the history is like the one that its name stands for
  have entry (d : AnyDescriptor) (member : d ∈ ds) :
      ∃ e, r.find? d.baseName = some e ∧ e.recognize? word = d.recognize? word := by
    have listed := (records.names d.baseName).2 (List.mem_map_of_mem member)
    obtain ⟨e, held⟩ := Option.ne_none_iff_exists'.1 fun absent => SortedMap.get_eq_none.1 absent listed
    obtain ⟨member_e, named⟩ := ((records.entry _ e).1 held).mem
    exact ⟨e, held, alike e member_e d member named⟩
  rw [findWord_eq_some records.sorted]
  constructor
  · rintro ⟨d, held, taken, none_before⟩
    obtain ⟨member, named⟩ := ((records.entry name d).1 held).mem
    refine ⟨d, member, named, taken, fun e member_e below => ?_⟩
    obtain ⟨other, there, same⟩ := entry e member_e
    rw [← same]
    exact none_before _ below other there
  · rintro ⟨d, member, rfl, taken, none_before⟩
    obtain ⟨e, held, same⟩ := entry d member
    refine ⟨e, held, same.trans taken, fun earlier below other there => ?_⟩
    obtain ⟨member_other, named⟩ := ((records.entry earlier other).1 there).mem
    exact none_before other member_other (named ▸ below)

/-- The same in terms of what the descriptors show of the word: the first name, in order, with a
descriptor whose first match is all of it, and whether the plural group has some of that. -/
theorem Records.findWord_shows (records : Records r ds) {word name : String} {plural : Bool}
    (alike : ∀ d ∈ ds, ∀ e ∈ ds, d.baseName = e.baseName → d.recognize? word = e.recognize? word) :
    r.findWord? word = some (name, plural) ↔
      ∃ d ∈ ds, d.baseName = name ∧
        (∃ group, d.Shows word ⟨0, word.utf8ByteSize⟩ group ∧
          (group.any fun e => e.start ≠ e.stop) = plural) ∧
        ∀ e ∈ ds, e.baseName < name → ∀ group, ¬ e.Shows word ⟨0, word.utf8ByteSize⟩ group := by
  rw [records.findWord_iff alike]
  simp only [AnyDescriptor.recognize_eq_some, AnyDescriptor.recognize_eq_none]

section Single

variable (made : ∀ d ∈ ds, d.IsMade)
  (single : ∀ d ∈ ds, ∀ e ∈ ds, d.baseName = e.baseName →
    d.valueClass = e.valueClass ∧ d.source = e.source)

include made single

theorem recognize_alike (word : String) :
    ∀ d ∈ ds, ∀ e ∈ ds, d.baseName = e.baseName → d.recognize? word = e.recognize? word := by
  intro d member_d e member_e named
  have source := (single d member_d e member_e named).2
  rw [AnyDescriptor.recognize?, AnyDescriptor.recognize?,
    AnyDescriptor.matcher_of_source (made d member_d) (made e member_e) source]

/-- Registries that were given the same descriptors answer alike if no name has two identities. -/
theorem Records.answers_eq (records : Records r ds) (other : Records q es) (perm : ds.Perm es) :
    r.listing = q.listing ∧ ∀ word, r.findWord? word = q.findWord? word := by
  have names (n : String) : n ∈ ds.map (·.baseName) ↔ n ∈ es.map (·.baseName) :=
    (perm.map _).mem_iff
  constructor
  · rw [listing_eq, listing_eq]
    refine congrArg (List.map (·.2)) (records.mapValues_eq other names ?_)
    intro d member_d e member_e named
    obtain ⟨valueClass, source⟩ := single d member_d e (perm.mem_iff.2 member_e) named
    rw [Listing.of, Listing.of, named, valueClass, source]
  · intro word
    rw [findWord_eq, findWord_eq, records.mapValues_eq other names]
    intro d member_d e member_e named
    exact recognize_alike made single word d member_d e (perm.mem_iff.2 member_e) named

end Single

/-- Whatever order descriptors are registered in, as many are new, as many identities and names are
known at the end, and the identities are the same. If no name has two identities, the registries
list the same and recognize the same words: a word is recognized by the first name, in order, with a
descriptor that recognizes it. -/
theorem order_does_not_matter (ds es : List AnyDescriptor) (perm : ds.Perm es) :
    ((empty.registerAll ds).1.count true = (empty.registerAll es).1.count true ∧
      (empty.registerAll ds).2.seen.size = (empty.registerAll es).2.seen.size ∧
      (empty.registerAll ds).2.byName.length = (empty.registerAll es).2.byName.length ∧
      (empty.registerAll ds).2.seen.identities.Perm (empty.registerAll es).2.seen.identities) ∧
    ((∀ d ∈ ds, d.IsMade) →
      (∀ d ∈ ds, ∀ e ∈ ds, d.baseName = e.baseName →
        d.valueClass = e.valueClass ∧ d.source = e.source) →
      (empty.registerAll ds).2.listing = (empty.registerAll es).2.listing ∧
      ∀ word, (empty.registerAll ds).2.findWord? word = (empty.registerAll es).2.findWord? word ∧
        ∀ name plural, (empty.registerAll ds).2.findWord? word = some (name, plural) ↔
          ∃ d ∈ ds, d.baseName = name ∧ d.recognize? word = some plural ∧
            ∀ e ∈ ds, e.baseName < name → e.recognize? word = none) := by
  have records := records_all ds
  have other := records_all es
  have identities := records.identities_perm other fun i => (perm.map _).mem_iff
  have sizes : (empty.registerAll ds).2.seen.size = (empty.registerAll es).2.seen.size := by
    rw [DescriptorSet.size_eq, DescriptorSet.size_eq, identities.length_eq]
  have names : (empty.registerAll ds).2.byName.length = (empty.registerAll es).2.byName.length := by
    rw [records.size_names, other.size_names, List.toFinset_eq_of_perm _ _ (perm.map _)]
  have fresh : (empty.registerAll ds).1.count true = (empty.registerAll es).1.count true := by
    have first := count_fresh empty ds
    have last := count_fresh empty es
    omega
  refine ⟨⟨fresh, sizes, names, identities⟩, fun made single => ?_⟩
  obtain ⟨listing, words⟩ := records.answers_eq made single other perm
  exact ⟨listing, fun word =>
    ⟨words word, fun _ _ => records.findWord_iff (recognize_alike made single word)⟩⟩

/-- Whichever of two spellings of a word comes first, the registry lists the word once and finds
every word or none alike, though one entry reads literals and the other does not. -/
theorem spellings_in_any_order :
    ∃ d e : AnyDescriptor, d.descriptor.reader.isSome = false ∧ e.descriptor.reader.isSome = true ∧
      [d, e].Perm [e, d] ∧
      (empty.registerAll [d, e]).2.listing = (empty.registerAll [e, d]).2.listing ∧
      ∀ word, (empty.registerAll [d, e]).2.findWord? word =
        (empty.registerAll [e, d]).2.findWord? word := by
  let d : AnyDescriptor := ⟨.text, .textSlice, "item", itemMatcher, none, none⟩
  let e : AnyDescriptor := ⟨.bool, .textSlice, "item", itemMatcher, some (.ofType .bool), none⟩
  have made_d : d.IsMade := ⟨_, _, _, Descriptor.made_of_compile .textSlice compile_item none⟩
  have made_e : e.IsMade :=
    ⟨_, _, _, Descriptor.made_of_compile .textSlice compile_item_suffix (some (.ofType .bool))⟩
  have made : ∀ m ∈ [d, e], m.IsMade := by
    intro m member
    rcases List.mem_pair.1 member with rfl | rfl
    · exact made_d
    · exact made_e
  have single : ∀ m ∈ [d, e], ∀ n ∈ [d, e], m.baseName = n.baseName →
      m.valueClass = n.valueClass ∧ m.source = n.source := by
    intro m member n other _
    rcases List.mem_pair.1 member with rfl | rfl <;> rcases List.mem_pair.1 other with rfl | rfl <;>
      exact ⟨rfl, rfl⟩
  have swap : [d, e].Perm [e, d] := List.Perm.swap e d []
  obtain ⟨-, alike⟩ := order_does_not_matter [d, e] [e, d] swap
  obtain ⟨listing, words⟩ := alike made single
  exact ⟨d, e, rfl, rfl, swap, listing, fun word => (words word).1⟩

end Registry

end ScriptTypes
