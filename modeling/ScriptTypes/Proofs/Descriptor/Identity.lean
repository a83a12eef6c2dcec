import ScriptTypes.Proofs.Descriptor.Collision
import ScriptTypes.Proofs.Descriptor.Rebuilding

namespace ScriptTypes

open ScriptTypes.Pattern
open ScriptTypes.Plural
open ScriptTypes.Text (trimChars)

variable {t u v : ValueType}

/-- How a descriptor comes about: from a class, a name and a pattern with any reader of literals,
and by attaching any renderers to it. -/
inductive Descriptor.Made (valueClass : ValueClass) (baseName pattern : String) :
    Descriptor t → Prop
  | ofParts {reader : Option (LiteralReader t)} {d : Descriptor t}
      (built : Descriptor.ofParts valueClass baseName pattern reader = .ok d) :
      Made valueClass baseName pattern d
  | withRenderer {d : Descriptor t} (made : Made valueClass baseName pattern d)
      (renderer : Renderer t) : Made valueClass baseName pattern (d.withRenderer renderer)

def AnyDescriptor.IsMade (d : AnyDescriptor) : Prop :=
  ∃ valueClass baseName pattern, d.descriptor.Made valueClass baseName pattern

theorem matcher_ext {m n : Matcher} (source : m.source = n.source) (form : m.form = n.form) :
    m = n := by
  obtain ⟨own_source, own_form⟩ := m
  cases source
  cases form
  rfl

namespace Descriptor

variable {valueClass : ValueClass} {baseName pattern : String} {d : Descriptor t}

theorem ofParts_eq_ok {reader : Option (LiteralReader t)} :
    ofParts valueClass baseName pattern reader = .ok d ↔
      ∃ matcher, compile baseName pattern = .ok matcher ∧
        d = ⟨valueClass, baseName, matcher, reader, none⟩ := by
  rw [ofParts]
  cases compile baseName pattern with
  | error e => simp [bind, Except.bind]
  | ok matcher => simp [bind, Except.bind, pure, Except.pure, eq_comm]

theorem made_of_compile (valueClass : ValueClass) {matcher : Matcher}
    (compiled : compile baseName pattern = .ok matcher) (reader : Option (LiteralReader t)) :
    Made valueClass baseName pattern (⟨valueClass, baseName, matcher, reader, none⟩ : Descriptor t) :=
  .ofParts (ofParts_eq_ok.2 ⟨matcher, compiled, rfl⟩)

theorem Made.parts (made : d.Made valueClass baseName pattern) :
    d.valueClass = valueClass ∧ d.baseName = baseName ∧
      compile baseName pattern = .ok d.matcher := by
  induction made with
  | ofParts built =>
      obtain ⟨matcher, compiled, rfl⟩ := ofParts_eq_ok.1 built
      exact ⟨rfl, rfl, compiled⟩
  | withRenderer made renderer ih => exact ih

theorem Made.source (made : d.Made valueClass baseName pattern) :
    d.source = normalizedSource pattern :=
  (compile_eq_ok.1 made.parts.2.2).1

theorem Made.formOf_source (made : d.Made valueClass baseName pattern) :
    Matcher.formOf? d.source.toList = .ok d.matcher.form := by
  rw [made.source, toList_normalizedSource]
  exact (compile_eq_ok.1 made.parts.2.2).2

theorem same_iff (d : Descriptor t) (e : Descriptor u) :
    d.same e = true ↔ d.valueClass = e.valueClass ∧ d.baseName = e.baseName ∧
      d.source = e.source := by
  simp [same, and_assoc]

theorem same_erased (d : Descriptor t) (e : Descriptor u) :
    AnyDescriptor.same ⟨t, d⟩ ⟨u, e⟩ = d.same e := rfl

end Descriptor

theorem made_of_build {q : Request} {d : AnyDescriptor} (built : q.build = .ok d) :
    d.descriptor.Made q.classOf q.baseName q.pattern := by
  obtain ⟨matcher, compiled, rfl⟩ := build_eq_ok.1 built
  have plain := Descriptor.made_of_compile q.classOf compiled q.readerOf
  cases renderer : q.renderer with
  | none =>
      rw [Request.describe, renderer]
      exact plain
  | some name =>
      rw [Request.describe, renderer]
      exact plain.withRenderer (name.renderer q.type)

namespace Plural

/-- A text that is another one with the suffix behind it, where the other had no plural group and
does not hide the suffix behind a backslash. -/
def SpellsOut (long short : List Char) : Prop :=
  long = short ++ suffix ∧ hasGroup short = false ∧ short.getLast? ≠ some '\\'

variable {long short : List Char}

theorem kept_eq_extended (missed : hasGroup short = false) :
    hasGroup long = true ∧ long = short ++ suffix ↔ SpellsOut long short := by
  constructor
  · rintro ⟨found, rfl⟩
    rcases (hasGroup_append_suffix short).1 found with inside | free
    · rw [missed] at inside
      cases inside
    · exact ⟨rfl, missed, free⟩
  · rintro ⟨rfl, -, free⟩
    exact ⟨(hasGroup_append_suffix short).2 (.inr free), rfl⟩

theorem not_spellsOut_found (found : hasGroup short = true) : ¬ SpellsOut long short := by
  rintro ⟨-, missed, -⟩
  rw [found] at missed
  cases missed

theorem not_spellsOut_missed (missed : hasGroup long = false) : ¬ SpellsOut long short := by
  intro spelled
  have found := ((kept_eq_extended spelled.2.1).2 spelled).1
  rw [missed] at found
  cases found

/-- Which patterns have the same normalized form. The two are compared as kept or extended: only if
one is kept and the other extended can they meet without being the same. -/
theorem source_normalize_inj (p q : List Char) :
    (normalize p).source = (normalize q).source ↔
      trimChars p = trimChars q ∨ SpellsOut (trimChars p) (trimChars q) ∨
        SpellsOut (trimChars q) (trimChars p) := by
  rw [source_normalize, source_normalize]
  cases found_p : hasGroup (trimChars p) <;> cases found_q : hasGroup (trimChars q)
  · simp [not_spellsOut_missed found_p, not_spellsOut_missed found_q]
  · have apart : trimChars p ≠ trimChars q := by
      intro same
      simp [same, found_q] at found_p
    simp [apart, not_spellsOut_missed found_p, ← kept_eq_extended found_p, found_q, eq_comm]
  · have apart : trimChars p ≠ trimChars q := by
      intro same
      simp [same, found_q] at found_p
    simp [apart, not_spellsOut_missed found_q, ← kept_eq_extended found_q, found_p]
  · simp [not_spellsOut_found found_p, not_spellsOut_found found_q]

theorem normalizedSource_inj (p q : String) :
    normalizedSource p = normalizedSource q ↔
      (normalize p.toList).source = (normalize q.toList).source := by
  rw [normalizedSource, normalizedSource, String.ofList_inj]

end Plural

/-- Whether two descriptors are the same, read off what they were made from. The trimmed patterns
must be the same, or one must be the other with the suffix spelled out behind it. A set tells any
other two apart, whatever they read and render. -/
theorem same_iff_made_alike {class₁ class₂ : ValueClass} {name₁ name₂ pattern₁ pattern₂ : String}
    (d : Descriptor t) (e : Descriptor u) (made_d : d.Made class₁ name₁ pattern₁)
    (made_e : e.Made class₂ name₂ pattern₂) :
    (d.same e = true ↔ class₁ = class₂ ∧ name₁ = name₂ ∧
      (trimChars pattern₁.toList = trimChars pattern₂.toList ∨
        SpellsOut (trimChars pattern₁.toList) (trimChars pattern₂.toList) ∨
        SpellsOut (trimChars pattern₂.toList) (trimChars pattern₁.toList))) ∧
    AnyDescriptor.same ⟨t, d⟩ ⟨u, e⟩ = d.same e ∧
    ((DescriptorSet.empty.insert ⟨t, d⟩).insert ⟨u, e⟩).size = if d.same e then 1 else 2 := by
  refine ⟨?_, rfl, ?_⟩
  · obtain ⟨own_class, own_name, -⟩ := made_d.parts
    obtain ⟨other_class, other_name, -⟩ := made_e.parts
    rw [Descriptor.same_iff, own_class, own_name, other_class, other_name, made_d.source,
      made_e.source, normalizedSource_inj, source_normalize_inj]
  · have first : DescriptorSet.empty.insert ⟨t, d⟩ = ⟨[⟨t, d⟩]⟩ := rfl
    have merged : (DescriptorSet.mk [⟨t, d⟩]).contains ⟨u, e⟩ = d.same e := by
      rw [← Descriptor.same_erased]
      cases same : AnyDescriptor.same ⟨t, d⟩ ⟨u, e⟩ <;>
        simp [DescriptorSet.contains, DescriptorSet.get?, same]
    rw [first, DescriptorSet.insert, merged]
    cases d.same e <;> rfl

def itemMatcher : Matcher where
  source := "item(?<plural>)??"
  form := .seq (.literal ['i', 't', 'e', 'm'])
    (.repetition 0 (some 1) false (.capture 1 (some "plural") .empty))

theorem compile_item : compile "item" " item" = .ok itemMatcher := by decide +kernel

theorem compile_item_suffix : compile "item" "item(?<plural>)??" = .ok itemMatcher := by decide +kernel

namespace Request

def item : Request := ⟨"item", " item", .text, .textSlice, none, none, .new⟩

def itemSpelledOut : Request :=
  ⟨"item", "item(?<plural>)??", .bool, .textSlice, none, none, .new⟩

theorem build_item : item.build = .ok (item.describe itemMatcher) :=
  build_eq_ok.2 ⟨itemMatcher, compile_item, rfl⟩

theorem build_itemSpelledOut : itemSpelledOut.build = .ok (itemSpelledOut.describe itemMatcher) :=
  build_eq_ok.2 ⟨itemMatcher, compile_item_suffix, rfl⟩

end Request

/-- A plain word and the same word with the suffix spelled out. -/
theorem item_same_spelled_out :
    ∃ (d : Descriptor .text) (e : Descriptor .bool), d.Made .textSlice "item" " item" ∧
      e.Made .textSlice "item" "item(?<plural>)??" ∧ d.same e = true := by
  have made_d := (Descriptor.made_of_compile (t := .text) .textSlice compile_item none).withRenderer
    (.units .text)
  have made_e := Descriptor.made_of_compile (t := .bool) .textSlice compile_item_suffix
    (some (.ofType .bool))
  refine ⟨_, _, made_d, made_e, (same_iff_made_alike _ _ made_d made_e).1.2 ⟨rfl, rfl, ?_⟩⟩
  exact .inr (.inr ⟨by decide +kernel, by decide +kernel, by decide +kernel⟩)

/-- The same descriptor, seen with its value type and without, is one notion: an equivalence across
all value types, under which hashing takes the same from both, namely the source, and both show the
same groups and the same matches of every text. -/
theorem same_is_congruence (a : Descriptor t) (b : Descriptor u) (c : Descriptor v)
    (made_a : AnyDescriptor.IsMade ⟨t, a⟩) (made_b : AnyDescriptor.IsMade ⟨u, b⟩) :
    AnyDescriptor.same ⟨t, a⟩ ⟨u, b⟩ = a.same b ∧ a.same a = true ∧ a.same b = b.same a ∧
    (a.same b = true → b.same c = true → a.same c = true) ∧
    (a.same b = true →
      (a.hashKey = a.source ∧ b.hashKey = a.source ∧
        AnyDescriptor.hashKey ⟨t, a⟩ = a.source ∧ AnyDescriptor.hashKey ⟨u, b⟩ = a.source) ∧
      a.matcher.groupNames = b.matcher.groupNames ∧
      ∀ name text, a.matcher.captures? name text = b.matcher.captures? name text ∧
        (a.matcher.form.allMatches text.toList).map (·.extent) =
          (b.matcher.form.allMatches text.toList).map (·.extent)) := by
  refine ⟨rfl, (Descriptor.same_iff a a).2 ⟨rfl, rfl, rfl⟩, ?_, ?_, ?_⟩
  · rw [Bool.eq_iff_iff, Descriptor.same_iff, Descriptor.same_iff]
    constructor
    · rintro ⟨same_class, same_name, same_source⟩
      exact ⟨same_class.symm, same_name.symm, same_source.symm⟩
    · rintro ⟨same_class, same_name, same_source⟩
      exact ⟨same_class.symm, same_name.symm, same_source.symm⟩
  · intro first last
    obtain ⟨same_class, same_name, same_source⟩ := (Descriptor.same_iff a b).1 first
    obtain ⟨next_class, next_name, next_source⟩ := (Descriptor.same_iff b c).1 last
    exact (Descriptor.same_iff a c).2
      ⟨same_class.trans next_class, same_name.trans next_name, same_source.trans next_source⟩
  · intro same
    obtain ⟨-, -, same_source⟩ := (Descriptor.same_iff a b).1 same
    obtain ⟨_, _, _, made_a⟩ := made_a
    obtain ⟨_, _, _, made_b⟩ := made_b
    -- neither class nor name matters here: a source has one meaning
    have same_form : a.matcher.form = b.matcher.form := by
      have read := made_a.formOf_source
      rw [same_source, made_b.formOf_source] at read
      exact (Except.ok.inj read).symm
    have same_matcher : a.matcher = b.matcher := matcher_ext same_source same_form
    refine ⟨⟨rfl, same_source.symm, rfl, same_source.symm⟩, ?_, fun name text => ?_⟩
    · rw [same_matcher]
    · rw [same_matcher]
      exact ⟨rfl, rfl⟩

/-- The same word in two spellings, for values of two types, with a reader and without. -/
theorem item_spellings_match_alike :
    ∃ (d : Descriptor .text) (e : Descriptor .bool), d.Made .textSlice "item" " item" ∧
      e.Made .textSlice "item" "item(?<plural>)??" ∧ d.same e = true ∧
      ∀ text, d.matcher.captures? groupName text = e.matcher.captures? groupName text := by
  have made_d := Descriptor.made_of_compile (t := .text) .textSlice compile_item none
  have made_e := Descriptor.made_of_compile (t := .bool) .textSlice compile_item_suffix
    (some (.ofType .bool))
  refine ⟨_, _, made_d, made_e, rfl, fun text => ?_⟩
  obtain ⟨-, -, -, -, alike⟩ :=
    same_is_congruence (v := .text) _ _ ⟨.unit, "", itemMatcher, none, none⟩ ⟨_, _, _, made_d⟩
      ⟨_, _, _, made_e⟩
  exact ((alike rfl).2.2 groupName text).1

end ScriptTypes
