import ScriptTypes.Proofs.Collections.RegistrationOrder
import ScriptTypes.Proofs.Session

/-!
The registry of a session, read off the descriptors that its steps have registered. Each counts as
it stood in its slot at that step; what the slots and the set go through later is nothing to it.
-/

namespace ScriptTypes

namespace Session

variable {s : Session} {slot : String} {d : AnyDescriptor} {act : AnyDescriptor → Answer × Session}
  {name : String}

theorem withSlot_of_held (held : s.slots.get? slot = some d) : s.withSlot slot act = act d := by
  rw [withSlot, held]

theorem withSlot_of_empty (empty : s.slots.get? slot = none) :
    s.withSlot slot act = (.noSlot, s) := by
  rw [withSlot, empty]

theorem withSlot_keeps {β : Type} {f : Session → β} (keeps : ∀ d, f (act d).2 = f s) :
    f (s.withSlot slot act).2 = f s := by
  cases held : s.slots.get? slot with
  | none => rw [withSlot_of_empty held]
  | some d =>
      rw [withSlot_of_held held]
      exact keeps d

theorem held_store (s : Session) (slot : String) (d : AnyDescriptor) :
    (s.store slot d).slots.get? slot = some d :=
  (SortedMap.get_put slot d s.slots slot).trans (if_pos rfl)

theorem held_make {request : Request} (built : request.build = .ok d) (slot : String) :
    (s.step (.make slot request)).2.slots.get? slot = some d := by
  rw [Session.step, built]
  exact held_store s slot d

theorem held_clone {origin : String} (held : s.slots.get? origin = some d) (slot : String) :
    (s.step (.clone origin slot)).2.slots.get? slot = some d := by
  rw [Session.step, withSlot_of_held held]
  exact held_store s slot d

def handed (s : Session) : Step → List AnyDescriptor
  | .register slot => (s.slots.get? slot).toList
  | _ => []

/-- What the steps hand to the registry, in order, each as it stands in its slot at that step. -/
def registrations (s : Session) : List Step → List AnyDescriptor
  | [] => []
  | step :: rest => s.handed step ++ (s.step step).2.registrations rest

theorem mem_handed {step : Step} :
    d ∈ s.handed step ↔ ∃ slot, step = .register slot ∧ s.slots.get? slot = some d := by
  constructor
  · intro member
    cases step with
    | register slot => exact ⟨slot, rfl, Option.mem_toList.1 member⟩
    | _ => cases member
  · rintro ⟨slot, rfl, held⟩
    exact Option.mem_toList.2 held

/-- What was registered stood in its slot when it was. -/
theorem mem_registrations {steps : List Step} :
    d ∈ s.registrations steps ↔ ∃ before slot, before ++ [.register slot] <+: steps ∧
      (s.run before).2.slots.get? slot = some d := by
  induction steps generalizing s with
  | nil => simp [registrations]
  | cons step rest ih =>
      rw [registrations, List.mem_append, mem_handed, ih]
      constructor
      · rintro (⟨slot, rfl, held⟩ | ⟨before, slot, begins, held⟩)
        · exact ⟨[], slot, List.prefix_append _ rest, held⟩
        · exact ⟨step :: before, slot, (List.prefix_cons_inj step).2 begins, held⟩
      · rintro ⟨before, slot, begins, held⟩
        cases before with
        | nil =>
            obtain ⟨rfl, -⟩ := List.cons_prefix_cons.1 begins
            exact .inl ⟨slot, rfl, held⟩
        | cons first before =>
            obtain ⟨rfl, later⟩ := List.cons_prefix_cons.1 begins
            exact .inr ⟨before, slot, later, held⟩

theorem step_register (held : s.slots.get? slot = some d) :
    s.step (.register slot) =
      (.registered (!s.registry.seen.contains d) (s.registry.register d).seen.size
        (s.registry.register d).byName.length, { s with registry := s.registry.register d }) :=
  withSlot_of_held held

/-- A step changes the registry by what it hands over and in no other way. -/
theorem registry_step (s : Session) (step : Step) :
    (s.step step).2.registry = (s.registry.registerAll (s.handed step)).2 := by
  cases step with
  | register slot =>
      cases held : s.slots.get? slot with
      | none =>
          rw [handed, held]
          exact congrArg (fun result => result.2.registry) (withSlot_of_empty held)
      | some d =>
          rw [handed, held, step_register held]
          rfl
  | make slot request =>
      rw [Session.step]
      cases request.build <;> rfl
  | compare a b => exact withSlot_keeps fun _ => withSlot_keeps (f := registry) fun _ => rfl
  | clone origin slot => exact withSlot_keeps fun _ => rfl
  | withRenderer slot renderer => exact withSlot_keeps fun _ => rfl
  | describe slot => exact withSlot_keeps fun _ => rfl
  | debug slot pretty => exact withSlot_keeps fun _ => rfl
  | read slot text => exact withSlot_keeps fun _ => rfl
  | display slot value => exact withSlot_keeps fun _ => rfl
  | captures slot text => exact withSlot_keeps fun _ => rfl
  | downcast slot type => exact withSlot_keeps fun _ => rfl
  | setInsert slot => exact withSlot_keeps fun _ => rfl
  | setReplace slot => exact withSlot_keeps fun _ => rfl
  | setRemove slot => exact withSlot_keeps fun _ => rfl
  | setContains slot => exact withSlot_keeps fun _ => rfl
  | setGet slot type => exact withSlot_keeps fun _ => rfl
  | drop slot => rfl
  | setList => rfl
  | registry => rfl
  | lookupName name type => rfl
  | coerce name type text => rfl
  | lookupWord word => rfl

theorem records_run {history : List AnyDescriptor} (records : s.registry.Records history)
    (steps : List Step) : (s.run steps).2.registry.Records (history ++ s.registrations steps) := by
  -- on the steps; the history grows by what each hands over, and the registry records all of it
  induction steps generalizing s history with
  | nil =>
      rw [registrations, List.append_nil]
      exact records
  | cons step rest ih =>
      have next : (s.step step).2.registry.Records (history ++ s.handed step) := by
        rw [registry_step]
        exact records.registerAll (s.handed step)
      rw [registrations, ← List.append_assoc]
      exact ih next

theorem records_session (steps : List Step) :
    (empty.run steps).2.registry.Records (empty.registrations steps) :=
  records_run (s := empty) Registry.records_empty steps

theorem handed_of_other {step : Step} (other : ∀ slot, step ≠ .register slot) :
    s.handed step = [] := by
  cases step with
  | register slot => exact absurd rfl (other slot)
  | _ => rfl

theorem step_lookupName (found : s.registry.find? name = some d) (type : ValueType) :
    s.step (.lookupName name type) = (.lookup (.found (d.abilities? type)), s) := by
  rw [Session.step, found]

theorem step_coerce (found : s.registry.find? name = some d) (type : ValueType) (text : String) :
    s.step (.coerce name type text) =
      (.coerced (match d.as? type with
        | none => .wrongType
        | some typed => .found (typed.read text)), s) := by
  rewrite [Session.step, found]
  rfl

/-- The registry after any steps is a matter of what they have registered. The next descriptor is
fresh if none of the same class, name and source was registered before, and changes nothing if one
was. A name stands for the last descriptor that was fresh when it came, as it was then. Identities
and names are counted once each, and no step but a registration changes any of this. -/
theorem registry_is_its_history (steps : List Step) :
    let s := (empty.run steps).2
    let history := empty.registrations steps
    (∀ slot d, s.slots.get? slot = some d →
      (s.step (.register slot)).1 = .registered
        (decide (∀ e ∈ history,
          ¬ (e.valueClass = d.valueClass ∧ e.baseName = d.baseName ∧ e.source = d.source)))
        ((history ++ [d]).map (·.identity)).toFinset.card
        ((history ++ [d]).map (·.baseName)).toFinset.card ∧
      ((∃ e ∈ history,
          e.valueClass = d.valueClass ∧ e.baseName = d.baseName ∧ e.source = d.source) →
        (s.step (.register slot)).2 = s)) ∧
    s.registry.seen.size = (history.map (·.identity)).toFinset.card ∧
    s.registry.byName.length = (history.map (·.baseName)).toFinset.card ∧
    (∀ name d, s.registry.find? name = some d ↔ LastFresh name history d) ∧
    (∀ name d, LastFresh name history d → ∀ type text,
      (s.step (.lookupName name type)).1 = .lookup (.found (d.abilities? type)) ∧
      (s.step (.coerce name type text)).1 = .coerced (match d.as? type with
        | none => .wrongType
        | some typed => .found (typed.read text))) ∧
    (∀ name, (∃ d, LastFresh name history d) ↔ name ∈ history.map (·.baseName)) ∧
    (∀ name, name ∉ history.map (·.baseName) → ∀ type text,
      (s.step (.lookupName name type)).1 = .lookup .unregistered ∧
      (s.step (.coerce name type text)).1 = .coerced .unregistered) ∧
    ∀ step, (∀ slot, step ≠ .register slot) → (s.step step).2.registry = s.registry := by
  intro s history
  have records : s.registry.Records history := records_session steps
  have known (name : String) : s.registry.find? name = none ↔ name ∉ history.map (·.baseName) := by
    rw [← records.names]
    exact SortedMap.get_eq_none
  refine ⟨fun slot d held => ⟨?_, ?_⟩, records.size_seen, records.size_names, records.entry, ?_, ?_,
    ?_, ?_⟩
  · have after := records.register d
    rw [step_register held, after.size_seen, after.size_names, records.contains_eq, Bool.not_not]
    simp only [fresh_iff]
  · rintro ⟨e, member, same⟩
    have seen : ¬ Fresh history d := fun fresh => (fresh_iff.1 fresh) e member same
    rw [step_register held, records.register_seen seen]
  · intro name d last type text
    have found := (records.entry name d).2 last
    rw [step_lookupName found, step_coerce found]
    exact ⟨rfl, rfl⟩
  · intro name
    rw [← not_iff_not, ← known, Option.eq_none_iff_forall_ne_some, not_exists]
    exact forall_congr' fun d => not_congr (records.entry name d).symm
  · intro name absent type text
    have missing := (known name).2 absent
    exact ⟨by rw [Session.step, missing], by rw [Session.step, missing]⟩
  · intro step other
    rw [registry_step, handed_of_other other]
    rfl

/-- A word is registered, and its slot is then filled with another spelling of it, for values of
another type. That one is known already, and what is found by the name is the first one. -/
theorem second_spelling_is_known :
    ∃ d e, Request.item.build = .ok d ∧ Request.itemSpelledOut.build = .ok e ∧
      let steps : List Step := [.make "a" .item, .register "a", .make "a" .itemSpelledOut]
      let s := (empty.run steps).2
      empty.registrations steps = [d] ∧ s.slots.get? "a" = some e ∧
      s.step (.register "a") = (.registered false 1 1, s) ∧
      (s.step (.lookupName "item" .text)).1 = .lookup (.found (some ⟨false, false⟩)) ∧
      (s.step (.lookupName "item" .bool)).1 = .lookup (.found none) := by
  refine ⟨_, _, Request.build_item, Request.build_itemSpelledOut, ?_⟩
  intro steps s
  let d := Request.item.describe itemMatcher
  have history : empty.registrations steps = [d] := by
    change ((empty.step (.make "a" .item)).2.slots.get? "a").toList ++ [] = [d]
    rw [held_make Request.build_item]
    rfl
  have held := held_make (s := (empty.run (steps.take 2)).2) Request.build_itemSpelledOut "a"
  have fresh : Fresh [] d := List.not_mem_nil
  have last : LastFresh "item" [d] d := (lastFresh_concat_of_fresh fresh).2 rfl
  obtain ⟨answers, -, -, -, found, -⟩ := registry_is_its_history steps
  rw [history] at answers found
  obtain ⟨answer, unchanged⟩ := answers "a" _ held
  have known := unchanged ⟨d, List.mem_cons_self, rfl, rfl, rfl⟩
  exact ⟨history, held, Prod.ext answer known, (found "item" d last .text "").1,
    (found "item" d last .bool "").1⟩

/-! ### Sessions that register the same -/

/-- Whatever is registered was made from something, since the session held it. -/
theorem registrations_made (steps : List Step) : ∀ d ∈ empty.registrations steps, d.IsMade := by
  intro d member
  obtain ⟨before, slot, -, held⟩ := mem_registrations.1 member
  exact (genuine_run genuine_empty before).slots slot d (SortedMap.mem_of_get held)

/-- Two sessions that register the same descriptors, in any order and whatever else they do, list
the same and recognize the same words if no name has two identities. A word is recognized by the
first name, in order, with a descriptor whose first match is all of the word. -/
theorem registries_agree {steps others : List Step}
    (perm : (empty.registrations steps).Perm (empty.registrations others))
    (single : ∀ d ∈ empty.registrations steps, ∀ e ∈ empty.registrations steps,
      d.baseName = e.baseName → d.valueClass = e.valueClass ∧ d.source = e.source) :
    (empty.run steps).2.registry.listing = (empty.run others).2.registry.listing ∧
    ∀ word, (empty.run steps).2.registry.findWord? word =
        (empty.run others).2.registry.findWord? word ∧
      ∀ name plural, (empty.run steps).2.registry.findWord? word = some (name, plural) ↔
        ∃ d ∈ empty.registrations steps, d.baseName = name ∧
          (∃ group, d.Shows word ⟨0, word.utf8ByteSize⟩ group ∧
            (group.any fun e => e.start ≠ e.stop) = plural) ∧
          ∀ e ∈ empty.registrations steps, e.baseName < name →
            ∀ group, ¬ e.Shows word ⟨0, word.utf8ByteSize⟩ group := by
  have records := records_session steps
  have made := registrations_made steps
  obtain ⟨listing, words⟩ := records.answers_eq made single (records_session others) perm
  refine ⟨listing, fun word => ⟨words word, fun name plural => ?_⟩⟩
  exact records.findWord_shows (Registry.recognize_alike made single word)

end Session

end ScriptTypes
