import ScriptTypes.Proofs.Collections.Latest
import ScriptTypes.Proofs.Collections.Snapshots
import ScriptTypes.Proofs.Session.History

/-!
The set of a session as a map from identities to snapshots. A snapshot is the descriptor as it stood
in its slot when it was stored; what the slots go through afterwards does not reach it.
-/

namespace ScriptTypes

def Snapshots.step (slots : SortedMap AnyDescriptor) (m : Snapshots) : Step → Snapshots
  | .setInsert slot => (slots.get? slot).elim m m.keep
  | .setReplace slot => (slots.get? slot).elim m m.renew
  | .setRemove slot => (slots.get? slot).elim m m.forget
  | _ => m

def Step.slots : Step → List String
  | .clone origin _ => [origin]
  | .withRenderer slot _ => [slot]
  | .drop slot => [slot]
  | .describe slot => [slot]
  | .debug slot _ => [slot]
  | .compare a b => [a, b]
  | .read slot _ => [slot]
  | .display slot _ => [slot]
  | .captures slot _ => [slot]
  | .downcast slot _ => [slot]
  | .setInsert slot => [slot]
  | .setReplace slot => [slot]
  | .setRemove slot => [slot]
  | .setContains slot => [slot]
  | .setGet slot _ => [slot]
  | .register slot => [slot]
  | _ => []

namespace Session

variable {s : Session} {m : Snapshots} {slot : String} {d : AnyDescriptor} {i : Identity}

def snapshots (s : Session) (m : Snapshots) : List Step → Snapshots
  | [] => m
  | step :: rest => (s.step step).2.snapshots (m.step s.slots step) rest

theorem snapshots_concat (s : Session) (m : Snapshots) (steps : List Step) (step : Step) :
    s.snapshots m (steps ++ [step]) = (s.snapshots m steps).step (s.run steps).2.slots step := by
  induction steps generalizing s m with
  | nil => rfl
  | cons first rest ih => exact ih (s.step first).2 (m.step s.slots first)

/-! ### The steps on the set -/

theorem step_setInsert (held : s.slots.get? slot = some d) :
    s.step (.setInsert slot) = (.inserted (!s.set.contains d) (s.set.insert d).size,
      { s with set := s.set.insert d }) :=
  withSlot_of_held held

theorem step_setReplace (held : s.slots.get? slot = some d) :
    s.step (.setReplace slot) = (.replaced (s.set.contains d) (s.set.replace d).size,
      { s with set := s.set.replace d }) :=
  withSlot_of_held held

theorem step_setRemove (held : s.slots.get? slot = some d) :
    s.step (.setRemove slot) = (.removed (s.set.contains d) (s.set.erase d).size,
      { s with set := s.set.erase d }) :=
  withSlot_of_held held

theorem step_setContains (held : s.slots.get? slot = some d) :
    s.step (.setContains slot) = (.contains (s.set.contains d), s) :=
  withSlot_of_held held

theorem step_setGet (held : s.slots.get? slot = some d) (type : ValueType) :
    s.step (.setGet slot type) = (.abilities ((s.set.get? d).bind (·.abilities? type)), s) :=
  withSlot_of_held held

/-! ### The set and the map -/

theorem shows_step (shows_m : s.set.Shows m) (step : Step) :
    (s.step step).2.set.Shows (m.step s.slots step) := by
  -- the steps that leave the set as it is
  have frame (keeps : (s.step step).2.set = s.set) : (s.step step).2.set.Shows m := by
    rw [keeps]
    exact shows_m
  have changed {slot : String} {act : AnyDescriptor → Answer × Session}
      {change : AnyDescriptor → Snapshots} (follows : ∀ d, (act d).2.set.Shows (change d)) :
      (s.withSlot slot act).2.set.Shows ((s.slots.get? slot).elim m change) := by
    cases held : s.slots.get? slot with
    | none =>
        rw [withSlot_of_empty held]
        exact shows_m
    | some d =>
        rw [withSlot_of_held held]
        exact follows d
  cases step with
  | setInsert slot => exact changed fun d => shows_m.keep d
  | setReplace slot => exact changed fun d => shows_m.renew d
  | setRemove slot => exact changed fun d => shows_m.forget d
  | make slot request =>
      refine frame ?_
      rw [Session.step]
      cases request.build <;> rfl
  | compare a b =>
      exact frame (withSlot_keeps fun _ => withSlot_keeps (f := set) fun _ => rfl)
  | clone origin slot => exact frame (withSlot_keeps fun _ => rfl)
  | withRenderer slot renderer => exact frame (withSlot_keeps fun _ => rfl)
  | describe slot => exact frame (withSlot_keeps fun _ => rfl)
  | debug slot pretty => exact frame (withSlot_keeps fun _ => rfl)
  | read slot text => exact frame (withSlot_keeps fun _ => rfl)
  | display slot value => exact frame (withSlot_keeps fun _ => rfl)
  | captures slot text => exact frame (withSlot_keeps fun _ => rfl)
  | downcast slot type => exact frame (withSlot_keeps fun _ => rfl)
  | setContains slot => exact frame (withSlot_keeps fun _ => rfl)
  | setGet slot type => exact frame (withSlot_keeps fun _ => rfl)
  | register slot => exact frame (withSlot_keeps fun _ => rfl)
  | drop slot => exact shows_m
  | setList => exact shows_m
  | registry => exact shows_m
  | lookupName name type => exact shows_m
  | coerce name type text => exact shows_m
  | lookupWord word => exact shows_m

theorem shows_run (shows_m : s.set.Shows m) (steps : List Step) :
    (s.run steps).2.set.Shows (s.snapshots m steps) := by
  induction steps generalizing s m with
  | nil => exact shows_m
  | cons step rest ih => exact ih (shows_step shows_m step)

theorem shows_session (steps : List Step) :
    (empty.run steps).2.set.Shows (empty.snapshots ∅ steps) :=
  shows_run (s := empty) DescriptorSet.shows_empty steps

/-! ### What was stored last -/

/-- Whether a step stores a descriptor: by putting it in the place of another, or by inserting it
where its identity is not in the set. -/
def Stores (s : Session) : Step → AnyDescriptor → Prop
  | .setInsert slot, d => s.slots.get? slot = some d ∧ s.set.contains d = false
  | .setReplace slot, d => s.slots.get? slot = some d
  | _, _ => False

def Removes (s : Session) : Step → AnyDescriptor → Prop
  | .setRemove slot, d => s.slots.get? slot = some d
  | _, _ => False

/-- The descriptor that was stored last under an identity by the steps from the empty session, with
nothing stored or taken away under that identity since. -/
def LastStored (i : Identity) : List Step → AnyDescriptor → Prop :=
  Latest (fun before step d => Stores (empty.run before).2 step d ∧ d.identity = i)
    (fun before step => ∃ e, (Stores (empty.run before).2 step e ∨
      Removes (empty.run before).2 step e) ∧ e.identity = i)

/-- Under each identity the map holds what the step stores there, or what it held and the step
leaves. -/
theorem lookup_step (shows_m : s.set.Shows m) (step : Step) :
    (m.step s.slots step).lookup i = some d ↔
      (Stores s step d ∧ d.identity = i) ∨
        ¬ (∃ e, (Stores s step e ∨ Removes s step e) ∧ e.identity = i) ∧ m.lookup i = some d := by
  cases step with
  | setInsert slot =>
      cases held : s.slots.get? slot with
      | none => simp [Snapshots.step, Stores, Removes, held]
      | some e =>
          simp only [Snapshots.step, Stores, Removes, held, shows_m.contains_eq, Option.elim_some,
            Option.some.injEq, decide_eq_false_iff_not, or_false]
          by_cases known : e.identity ∈ m
          · rw [Snapshots.keep_of_mem known]
            grind
          · rw [Snapshots.keep_of_absent known, Snapshots.lookup_renew]
            by_cases own : i = e.identity <;> grind
  | setReplace slot =>
      cases held : s.slots.get? slot with
      | none => simp [Snapshots.step, Stores, Removes, held]
      | some e =>
          simp only [Snapshots.step, Stores, Removes, held, Option.elim_some, Snapshots.lookup_renew]
          by_cases own : i = e.identity <;> grind
  | setRemove slot =>
      cases held : s.slots.get? slot with
      | none => simp [Snapshots.step, Stores, Removes, held]
      | some e =>
          simp only [Snapshots.step, Stores, Removes, held, Option.elim_some, Snapshots.lookup_forget]
          by_cases own : i = e.identity <;> grind
  | _ => simp [Snapshots.step, Stores, Removes]

theorem lookup_snapshots (steps : List Step) (i : Identity) (d : AnyDescriptor) :
    (empty.snapshots ∅ steps).lookup i = some d ↔ LastStored i steps d := by
  induction steps using List.reverseRecOn with
  | nil => exact ⟨fun found => by simp [snapshots] at found, fun last => (Latest.not_nil last).elim⟩
  | append_singleton before step ih =>
      rw [snapshots_concat, lookup_step (shows_session before), ih, LastStored, Latest.concat_iff]

/-! ### Steps that do nothing -/

theorem step_of_empty {step : Step} (needed : slot ∈ step.slots)
    (empty : s.slots.get? slot = none) :
    (s.step step).2 = s ∧ ((s.step step).1 = .noSlot ∨ step = .drop slot ∧
      (s.step step).1 = .dropped false) := by
  have idle {act : AnyDescriptor → Answer × Session} : s.withSlot slot act = (.noSlot, s) :=
    withSlot_of_empty empty
  cases step with
  | drop own =>
      cases List.mem_singleton.1 needed
      rw [Session.step, empty, SortedMap.erase_of_absent empty]
      exact ⟨rfl, .inr ⟨rfl, rfl⟩⟩
  | compare a b =>
      simp only [Step.slots, List.mem_cons, List.not_mem_nil, or_false] at needed
      rcases needed with rfl | rfl
      · exact ⟨congrArg (·.2) idle, .inl (congrArg (·.1) idle)⟩
      · cases held : s.slots.get? a with
        | none =>
            rw [Session.step, withSlot_of_empty held]
            exact ⟨rfl, .inl rfl⟩
        | some d =>
            rw [Session.step, withSlot_of_held held, idle]
            exact ⟨rfl, .inl rfl⟩
  | _ =>
      first
      | exact absurd needed List.not_mem_nil
      | cases List.mem_singleton.1 needed
        exact ⟨congrArg (·.2) idle, .inl (congrArg (·.1) idle)⟩

/-- The set after any steps holds what a map from identities to snapshots holds that goes through
the same steps. The steps on the set answer from the map, the sizes that they report count its keys,
and a listing is its keys in order; under each identity stands the snapshot that was stored last,
whatever became of the slots. A step that needs an empty slot and a request that is refused leave
the session as it is. -/
theorem set_refines_map (steps : List Step) :
    let s := (empty.run steps).2
    let m := empty.snapshots ∅ steps
    (s.set.Shows m ∧ ∀ step, (s.step step).2.set.Shows (m.step s.slots step)) ∧
    (∀ slot d, s.slots.get? slot = some d →
      (s.step (.setInsert slot)).1 = .inserted (decide (d.identity ∉ m)) (m.keep d).keys.card ∧
      (s.step (.setReplace slot)).1 = .replaced (decide (d.identity ∈ m)) (m.renew d).keys.card ∧
      (s.step (.setRemove slot)).1 = .removed (decide (d.identity ∈ m)) (m.forget d).keys.card ∧
      s.step (.setContains slot) = (.contains (decide (d.identity ∈ m)), s) ∧
      ∀ type, s.step (.setGet slot type) =
        (.abilities ((m.lookup d.identity).bind (·.abilities? type)), s)) ∧
    (∃ rows, s.step .setList = (.listing rows, s) ∧
      rows.Pairwise (fun a b => Listing.le a b = true) ∧
      (rows : Multiset Listing) = m.keys.val.map Identity.listing ∧
      ∀ i : Identity, i.listing ∈ rows ↔ i ∈ m) ∧
    (∀ i d, m.lookup i = some d ↔ LastStored i steps d) ∧
    (∀ step, ∀ slot ∈ step.slots, s.slots.get? slot = none →
      (s.step step).2 = s ∧ ((s.step step).1 = .noSlot ∨ step = .drop slot ∧
        (s.step step).1 = .dropped false)) ∧
    ∀ slot request e, request.build = .error e →
      s.step (.make slot request) = (.rejected e, s) := by
  intro s m
  have shows_m : s.set.Shows m := shows_session steps
  refine ⟨⟨shows_m, shows_step shows_m⟩, fun slot d held => ?_, ?_, lookup_snapshots steps,
    fun step slot needed empty => step_of_empty needed empty, fun slot request e refused => ?_⟩
  · refine ⟨?_, ?_, ?_, ?_, fun type => ?_⟩
    · rw [step_setInsert held, shows_m.contains_eq, (shows_m.keep d).size_eq, decide_not]
    · rw [step_setReplace held, shows_m.contains_eq, (shows_m.renew d).size_eq]
    · rw [step_setRemove held, shows_m.contains_eq, (shows_m.forget d).size_eq]
    · rw [step_setContains held, shows_m.contains_eq]
    · rw [step_setGet held, shows_m.get_eq]
  · obtain ⟨sorted, listed⟩ := shows_m.listed
    refine ⟨_, rfl, sorted, listed, fun i => ?_⟩
    rw [← Multiset.mem_coe, listed, Multiset.mem_map_of_injective Identity.listing_injective,
      Finset.mem_val, Finmap.mem_keys]
  · rw [Session.step, refused]

/-- A word is put into the set, and its slot is then filled with another spelling of it, for values
of another type. Inserting that one changes nothing; with replacing it takes the place. -/
theorem second_spelling_is_stored_by_replacing :
    ∃ d e, Request.item.build = .ok d ∧ Request.itemSpelledOut.build = .ok e ∧
      let steps : List Step := [.make "a" .item, .setInsert "a", .make "a" .itemSpelledOut]
      let s := (empty.run steps).2
      let t := (empty.run (steps ++ [.setReplace "a"])).2
      s.slots.get? "a" = some e ∧ LastStored d.identity steps d ∧
      (s.step (.setInsert "a")).1 = .inserted false 1 ∧
      s.step (.setGet "a" .text) = (.abilities (some ⟨false, false⟩), s) ∧
      t.slots.get? "a" = some e ∧ LastStored d.identity (steps ++ [.setReplace "a"]) e ∧
      t.step (.setGet "a" .text) = (.abilities none, t) := by
  refine ⟨_, _, Request.build_item, Request.build_itemSpelledOut, ?_⟩
  intro steps s t
  let d := Request.item.describe itemMatcher
  let e := Request.itemSpelledOut.describe itemMatcher
  have held : s.slots.get? "a" = some e := held_make Request.build_itemSpelledOut "a"
  have held_after : t.slots.get? "a" = some e := by
    change (s.step (.setReplace "a")).2.slots.get? "a" = some e
    rw [step_setReplace held]
    exact held
  have stored : empty.snapshots ∅ steps = Snapshots.renew ∅ d := by
    change ((empty.step (.make "a" .item)).2.slots.get? "a").elim ∅ (Snapshots.keep ∅) = _
    rw [held_make Request.build_item]
    exact Snapshots.keep_of_absent Finmap.notMem_empty
  have stored_after : empty.snapshots ∅ (steps ++ [.setReplace "a"]) =
      (Snapshots.renew ∅ d).renew e := by
    rw [snapshots_concat, stored]
    change (s.slots.get? "a").elim _ (Snapshots.renew _) = _
    rw [held]
    rfl
  obtain ⟨-, answers, -, last, -⟩ := set_refines_map steps
  obtain ⟨-, answers_after, -, last_after, -⟩ := set_refines_map (steps ++ [.setReplace "a"])
  rw [stored] at answers last
  rw [stored_after] at answers_after last_after
  obtain ⟨inserted, -, -, -, found⟩ := answers "a" e held
  obtain ⟨-, -, -, -, found_after⟩ := answers_after "a" e held_after
  -- both spellings have one identity, so that each is looked up where the other was stored
  have snapshot : (Snapshots.renew ∅ d).lookup d.identity = some d := by
    rw [Snapshots.lookup_renew, if_pos rfl]
  have snapshot_after : ((Snapshots.renew ∅ d).renew e).lookup d.identity = some e := by
    rw [Snapshots.lookup_renew]
    exact if_pos rfl
  exact ⟨held, (last _ _).1 snapshot, inserted, found .text, held_after,
    (last_after _ _).1 snapshot_after, found_after .text⟩

end Session

end ScriptTypes
