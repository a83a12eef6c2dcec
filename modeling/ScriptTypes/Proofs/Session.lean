import ScriptTypes.Proofs.Collections.DescriptorSet
import ScriptTypes.Proofs.Collections.SortedMap
import ScriptTypes.Proofs.Descriptor.Identity
import ScriptTypes.Session

namespace ScriptTypes

namespace Session

structure Genuine (s : Session) : Prop where
  slots : ∀ slot d, (slot, d) ∈ s.slots → d.IsMade
  set : ∀ d ∈ s.set.members, d.IsMade
  seen : ∀ d ∈ s.registry.seen.members, d.IsMade
  names : ∀ name d, (name, d) ∈ s.registry.byName → d.IsMade

variable {s : Session} {slot : String} {d : AnyDescriptor}

theorem genuine_empty : empty.Genuine where
  slots := fun _ _ absurd => nomatch absurd
  set := fun _ absurd => nomatch absurd
  seen := fun _ absurd => nomatch absurd
  names := fun _ _ absurd => nomatch absurd

theorem Genuine.store (genuine : s.Genuine) (made : d.IsMade) (slot : String) :
    (s.store slot d).Genuine where
  slots := by
    intro name other member
    rcases SortedMap.mem_put member with new | old
    · cases new
      exact made
    · exact genuine.slots name other old
  set := genuine.set
  seen := genuine.seen
  names := genuine.names

theorem Genuine.drop (genuine : s.Genuine) (slot : String) :
    Genuine { s with slots := s.slots.erase slot } where
  slots := fun name d member => genuine.slots name d (List.mem_filter.1 member).1
  set := genuine.set
  seen := genuine.seen
  names := genuine.names

theorem Genuine.withSet (genuine : s.Genuine) {set : DescriptorSet}
    (made : ∀ m ∈ set.members, m.IsMade) : Genuine { s with set } where
  slots := genuine.slots
  set := made
  seen := genuine.seen
  names := genuine.names

theorem Genuine.register (genuine : s.Genuine) (made : d.IsMade) :
    Genuine { s with registry := s.registry.register d } := by
  unfold Registry.register
  split
  · exact ⟨genuine.slots, genuine.set, genuine.seen, genuine.names⟩
  · refine ⟨genuine.slots, genuine.set, ?_, ?_⟩
    · intro m member
      rcases DescriptorSet.mem_insert member with rfl | old
      · exact made
      · exact genuine.seen m old
    · intro name m member
      rcases SortedMap.mem_put member with new | old
      · cases new
        exact made
      · exact genuine.names name m old

theorem Genuine.withSlot (genuine : s.Genuine) {act : AnyDescriptor → Answer × Session}
    (keeps : ∀ d : AnyDescriptor, d.IsMade → (act d).2.Genuine) :
    (s.withSlot slot act).2.Genuine := by
  unfold Session.withSlot
  split
  · exact genuine
  · rename_i d found
    exact keeps d (genuine.slots slot d (SortedMap.mem_of_get found))

theorem isMade_withRenderer (made : d.IsMade) (renderer : Renderer d.type) :
    AnyDescriptor.IsMade ⟨d.type, d.descriptor.withRenderer renderer⟩ := by
  obtain ⟨valueClass, baseName, pattern, made⟩ := made
  exact ⟨valueClass, baseName, pattern, made.withRenderer renderer⟩

theorem genuine_step (genuine : s.Genuine) (step : Step) : (s.step step).2.Genuine := by
  cases step with
  -- only an accepted request brings in a descriptor; the other steps copy what is there
  | make slot request =>
      simp only [Session.step]
      cases built : request.build with
      | error e => exact genuine
      | ok d => exact genuine.store ⟨_, _, _, made_of_build built⟩ slot
  | clone origin slot => exact genuine.withSlot fun d made => genuine.store made slot
  | withRenderer slot renderer =>
      refine genuine.withSlot fun d made => genuine.store ?_ slot
      cases renderer with
      | none => exact made
      | some name => exact isMade_withRenderer made _
  | drop slot => exact genuine.drop slot
  | setInsert slot =>
      refine genuine.withSlot fun d made => genuine.withSet fun m member => ?_
      rcases DescriptorSet.mem_insert member with rfl | old
      · exact made
      · exact genuine.set m old
  | setReplace slot =>
      refine genuine.withSlot fun d made => genuine.withSet fun m member => ?_
      rcases DescriptorSet.mem_replace member with rfl | old
      · exact made
      · exact genuine.set m old
  | setRemove slot =>
      exact genuine.withSlot fun d made => genuine.withSet fun m member =>
        genuine.set m (DescriptorSet.mem_erase member)
  | register slot => exact genuine.withSlot fun d made => genuine.register made
  | compare a b => exact genuine.withSlot fun d _ => genuine.withSlot fun e _ => genuine
  | describe slot => exact genuine.withSlot fun d _ => genuine
  | debug slot pretty => exact genuine.withSlot fun d _ => genuine
  | read slot text => exact genuine.withSlot fun d _ => genuine
  | display slot value => exact genuine.withSlot fun d _ => genuine
  | captures slot text => exact genuine.withSlot fun d _ => genuine
  | downcast slot type => exact genuine.withSlot fun d _ => genuine
  | setContains slot => exact genuine.withSlot fun d _ => genuine
  | setGet slot type => exact genuine.withSlot fun d _ => genuine
  | setList => exact genuine
  | registry => exact genuine
  | lookupName name type => exact genuine
  | coerce name type text => exact genuine
  | lookupWord word => exact genuine

/-- Whatever a session does, each descriptor that it holds was made from something. -/
theorem genuine_run (genuine : s.Genuine) (steps : List Step) : (s.run steps).2.Genuine := by
  induction steps generalizing s with
  | nil => exact genuine
  | cons step rest ih => exact ih (genuine_step genuine step)

end Session

end ScriptTypes
