import ScriptTypes.Session
import ScriptTypes.Proofs.Plural.Normalizing

/-!
Construction in one equation. All constructors compile the normalized pattern and then only fill
in the other fields, so a pattern is refused or accepted whichever constructor is used.
-/

namespace ScriptTypes

open ScriptTypes.Pattern (Form Matcher Rejection)
open ScriptTypes.Plural (normalize normalizedSource toList_normalizedSource)
open ScriptTypes.Text (trimChars)

def Request.trimmed (q : Request) : List Char := trimChars q.pattern.toList

def Request.classOf (q : Request) : ValueClass :=
  match q.constructor with
  | .ofType => .ofType q.type
  | _ => q.valueClass

def Request.readerOf (q : Request) : Option (LiteralReader q.type) :=
  match q.constructor with
  | .ofType => none
  | .new => none
  | _ => q.reader.map (·.reader q.type)

def Request.describe (q : Request) (matcher : Matcher) : AnyDescriptor :=
  ⟨q.type, ⟨q.classOf, q.baseName, matcher, q.readerOf, q.renderer.map (·.renderer q.type)⟩⟩

theorem exists_of_map_eq_ok {ε α β : Type} {outcome : Except ε α} {view : α → β} {b : β}
    (mapped : outcome.map view = .ok b) : ∃ a, outcome = .ok a ∧ view a = b := by
  cases outcome with
  | error fault => cases mapped
  | ok a => exact ⟨a, rfl, Except.ok.inj mapped⟩

theorem build_eq_map (q : Request) :
    q.build = (compile q.baseName q.pattern).map q.describe := by
  obtain ⟨baseName, pattern, type, valueClass, reader, renderer, constructor⟩ := q
  cases outcome : compile baseName pattern <;> cases constructor <;> cases reader <;>
    cases renderer <;>
    simp [Request.build, Request.describe, Request.classOf, Request.readerOf, Descriptor.ofType,
      Descriptor.new, Descriptor.withReader, Descriptor.ofParts, Descriptor.withRenderer, outcome,
      bind, Except.bind, pure, Except.pure, Except.map]

theorem compile_eq (baseName pattern : String) :
    compile baseName pattern =
      match Matcher.formOf? (normalize pattern.toList).source with
      | .ok form => .ok ⟨normalizedSource pattern, form⟩
      | .error rejection => .error ⟨baseName, normalizedSource pattern, rejection⟩ := by
  rw [compile, Matcher.ofSource?, toList_normalizedSource]
  cases Matcher.formOf? (normalize pattern.toList).source <;> rfl

theorem compile_eq_ok {baseName pattern : String} {matcher : Matcher} :
    compile baseName pattern = .ok matcher ↔
      matcher.source = normalizedSource pattern ∧
        Matcher.formOf? (normalize pattern.toList).source = .ok matcher.form := by
  obtain ⟨source, form⟩ := matcher
  rw [compile_eq]
  cases Matcher.formOf? (normalize pattern.toList).source with
  | error rejection => simp
  | ok read => simp [eq_comm]

theorem compile_eq_error {baseName pattern : String} {rejection : Rejection}
    (refused : Matcher.formOf? (normalize pattern.toList).source = .error rejection) :
    compile baseName pattern = .error ⟨baseName, normalizedSource pattern, rejection⟩ := by
  rw [compile_eq, refused]

theorem build_eq_ok {q : Request} {d : AnyDescriptor} :
    q.build = .ok d ↔ ∃ matcher, compile q.baseName q.pattern = .ok matcher ∧
      d = q.describe matcher := by
  rw [build_eq_map]
  cases compile q.baseName q.pattern with
  | error e => simp [Except.map]
  | ok matcher => simp [Except.map, eq_comm]

theorem build_of_form {q : Request} {form : Form}
    (compiled : Matcher.formOf? (normalize q.pattern.toList).source = .ok form) :
    q.build = .ok (q.describe ⟨normalizedSource q.pattern, form⟩) :=
  build_eq_ok.2 ⟨_, compile_eq_ok.2 ⟨rfl, compiled⟩, rfl⟩

theorem source_of_normalized {pattern : String} {text : List Char}
    (source : normalizedSource pattern = .ofList text) :
    (normalize pattern.toList).source = text := by
  rw [← toList_normalizedSource, source, String.toList_ofList]

theorem build_of_accepted {q : Request} {text : List Char} {form : Form}
    (source : normalizedSource q.pattern = .ofList text)
    (accepted : Matcher.formOf? text = .ok form) :
    q.build = .ok (q.describe ⟨.ofList text, form⟩) := by
  rw [← source_of_normalized source] at accepted
  rw [← source]
  exact build_of_form accepted

theorem build_of_refused {q : Request} {text : List Char} {rejection : Rejection}
    (source : normalizedSource q.pattern = .ofList text)
    (refused : Matcher.formOf? text = .error rejection) :
    q.build = .error ⟨q.baseName, .ofList text, rejection⟩ := by
  rw [← source_of_normalized source] at refused
  rw [build_eq_map, compile_eq_error refused, source]
  rfl

theorem build_source {q : Request} {d : AnyDescriptor} (built : q.build = .ok d) :
    d.source = normalizedSource q.pattern := by
  obtain ⟨matcher, compiled, rfl⟩ := build_eq_ok.1 built
  exact (compile_eq_ok.1 compiled).1

end ScriptTypes
