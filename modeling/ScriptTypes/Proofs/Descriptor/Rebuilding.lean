import ScriptTypes.Proofs.Descriptor.Construction
import ScriptTypes.Proofs.Plural.Normalizing

/-!
Building a descriptor again from its own source. The source of a descriptor is normalized already,
so this gives the same descriptor, unless the suffix stands behind a backslash: then it is not
found, and a second one is put behind it.
-/

namespace ScriptTypes

open ScriptTypes.Plural

/-- Asking again, for the same class and name, with the source of a descriptor as the pattern. The
new descriptor is the same as the old one, whatever else the requests say, exactly if a plural
group was found in the pattern or the pattern does not end in a backslash. In the other case the
source is extended once more, so that the request is refused or gives a different descriptor. -/
theorem rebuild_same_iff (q again : Request) (d : AnyDescriptor) (built : q.build = .ok d)
    (same_class : again.classOf = q.classOf) (same_name : again.baseName = q.baseName)
    (own_source : again.pattern = d.source) :
    ((hasGroup q.trimmed = true ∨ q.trimmed.getLast? ≠ some '\\') →
      ∃ e, again.build = .ok e ∧ e.source = d.source ∧
        d.descriptor.same e.descriptor = true ∧ d.same e = true ∧
        d.descriptor.hashKey = e.descriptor.hashKey ∧ d.hashKey = e.hashKey) ∧
    (¬ (hasGroup q.trimmed = true ∨ q.trimmed.getLast? ≠ some '\\') →
      ∀ e, again.build = .ok e → e.source.toList = d.source.toList ++ suffix ∧
        d.descriptor.same e.descriptor = false ∧ d.same e = false) := by
  obtain ⟨matcher, compiled, rfl⟩ := build_eq_ok.1 built
  obtain ⟨source, read⟩ := compile_eq_ok.1 compiled
  have listed : again.pattern.toList = (normalize q.pattern.toList).source := by
    rw [own_source, ← toList_normalizedSource, ← source]
    rfl
  have twice := normalize_again q.pattern.toList
  have found := hasGroup_source q.pattern.toList
  refine ⟨?_, ?_⟩
  -- a plural group is found in the source, which is then kept as it is
  · intro fine
    rw [if_pos (found.2 fine), ← listed] at twice
    have kept : normalizedSource again.pattern = matcher.source := by
      rw [normalizedSource, twice, listed, source, normalizedSource]
    have reread : compile again.baseName again.pattern = .ok matcher := by
      rw [compile_eq_ok, kept, twice, listed]
      exact ⟨rfl, read⟩
    refine ⟨again.describe matcher, build_eq_ok.2 ⟨matcher, reread, rfl⟩, rfl, ?_, ?_, rfl, rfl⟩
    · simp [Descriptor.same, Descriptor.source, Request.describe, same_class, same_name]
    · simp [AnyDescriptor.same, AnyDescriptor.source, AnyDescriptor.matcher,
        AnyDescriptor.valueClass, AnyDescriptor.baseName, Request.describe, same_class, same_name]
  -- the last backslash hides the suffix, and another one is appended
  · intro shielded e rebuilt
    have missed : ¬ hasGroup (normalize q.pattern.toList).source = true :=
      fun present => shielded (found.1 present)
    rw [if_neg missed, ← listed] at twice
    have longer : e.source.toList = matcher.source.toList ++ suffix := by
      rw [build_source rebuilt, toList_normalizedSource, twice, own_source]
      rfl
    have apart : matcher.source ≠ e.source := by
      intro equal
      rw [← equal] at longer
      have := congrArg List.length longer
      simp [suffix] at this
    refine ⟨longer, ?_, ?_⟩
    · exact Bool.and_eq_false_iff.2 (.inr (decide_eq_false apart))
    · exact Bool.and_eq_false_iff.2 (.inr (decide_eq_false apart))

/-- A plain word is built again from its source. -/
theorem item_source_rebuilds :
    ∃ d e : AnyDescriptor,
      Request.build ⟨"item", " item ", .text, .textSlice, none, none, .new⟩ = .ok d ∧
        Request.build ⟨"item", d.source, .bool, .textSlice, some .ofType, none, .ofParts⟩ = .ok e ∧
        e.source = d.source ∧ d.same e = true := by
  have compiled : compile "item" " item " = .ok ⟨"item(?<plural>)??",
      .seq (.literal ['i', 't', 'e', 'm'])
        (.repetition 0 (some 1) false (.capture 1 (some "plural") .empty))⟩ := by decide +kernel
  let q : Request := ⟨"item", " item ", .text, .textSlice, none, none, .new⟩
  let d := q.describe ⟨"item(?<plural>)??", .seq (.literal ['i', 't', 'e', 'm'])
    (.repetition 0 (some 1) false (.capture 1 (some "plural") .empty))⟩
  have built : q.build = .ok d := build_eq_ok.2 ⟨_, compiled, rfl⟩
  obtain ⟨e, rebuilt, source, -, same, -⟩ :=
    (rebuild_same_iff q ⟨"item", d.source, .bool, .textSlice, some .ofType, none, .ofParts⟩ d built
      rfl rfl rfl).1 (.inr (by decide))
  exact ⟨d, e, built, rebuilt, source, same⟩

/-- An escaped backslash is a pattern whose source is refused. -/
theorem backslash_source_refused :
    ¬ ∀ (q : Request) (d : AnyDescriptor), q.build = .ok d →
      ∃ e, Request.build { q with pattern := d.source } = .ok e ∧ e.source = d.source ∧
        d.same e = true := by
  intro rebuilds
  have compiled : compile "t" "\\\\" = .ok ⟨"\\\\(?<plural>)??", .seq (.literal ['\\'])
      (.repetition 0 (some 1) false (.capture 1 (some "plural") .empty))⟩ := by decide +kernel
  let q : Request := ⟨"t", "\\\\", .text, .textSlice, none, none, .new⟩
  have built := build_eq_ok (q := q).2 ⟨_, compiled, rfl⟩
  obtain ⟨e, rebuilt, -⟩ := rebuilds q _ built
  obtain ⟨matcher, recompiled, -⟩ := build_eq_ok.1 rebuilt
  have refused : (compile "t" "\\\\(?<plural>)??").toOption = none := by decide +kernel
  change compile "t" "\\\\(?<plural>)??" = .ok matcher at recompiled
  rw [recompiled] at refused
  cases refused

end ScriptTypes
