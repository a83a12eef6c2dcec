import ScriptTypes.Literal
import ScriptTypes.Pattern.Matcher
import ScriptTypes.Plural
import ScriptTypes.Text.Quoted
import ScriptTypes.ValueClass

/-!
Descriptors of script types: a name, the class of values it stands for, and the pattern that
recognizes it, with its plural group. Two descriptors are the same if class, name and normalized
pattern agree, whatever else they carry.
-/

namespace ScriptTypes

open ScriptTypes.Pattern (Matcher Rejection)

/-- A pattern that was refused, in the form in which it was compiled. -/
structure PatternError where
  baseName : String
  pattern : String
  rejection : Rejection
  deriving DecidableEq

namespace PatternError

def source (e : PatternError) : String := e.rejection.message e.pattern

def message (e : PatternError) : String :=
  "invalid pattern for type `" ++ e.baseName ++ "`: " ++ e.source

def sourceDebugText (pretty : Bool) (e : PatternError) : String :=
  match e.rejection with
  | .invalid _ =>
    "Syntax(\n" ++ Pattern.Fault.divider ++ "\n" ++ e.source ++ "\n" ++ Pattern.Fault.divider ++ "\n)"
  | .tooLarge limit =>
    if pretty then "CompiledTooBig(\n    " ++ toString limit ++ ",\n)"
    else "CompiledTooBig(" ++ toString limit ++ ")"

def debugText (pretty : Bool) (e : PatternError) : String :=
  Text.recordText pretty false "PatternSyntaxError"
    [("base_name", Text.quoted e.baseName), ("pattern", Text.quoted e.pattern),
      ("source", e.sourceDebugText pretty)]

end PatternError

structure Identity where
  valueClass : ValueClass
  baseName : String
  source : String
  deriving DecidableEq

structure Descriptor (t : ValueType) where
  valueClass : ValueClass
  baseName : String
  matcher : Matcher
  reader : Option (LiteralReader t)
  renderer : Option (Renderer t)

def compile (baseName pattern : String) : Except PatternError Matcher :=
  let source := Plural.normalizedSource pattern
  match Matcher.ofSource? source with
  | .ok matcher => .ok matcher
  | .error rejection => .error ⟨baseName, source, rejection⟩

namespace Descriptor

variable {t u : ValueType}

def ofParts (valueClass : ValueClass) (baseName pattern : String)
    (reader : Option (LiteralReader t)) : Except PatternError (Descriptor t) := do
  return ⟨valueClass, baseName, ← compile baseName pattern, reader, none⟩

def new (t : ValueType) (valueClass : ValueClass) (baseName pattern : String) :
    Except PatternError (Descriptor t) :=
  ofParts valueClass baseName pattern none

def ofType (t : ValueType) (baseName pattern : String) : Except PatternError (Descriptor t) :=
  new t (.ofType t) baseName pattern

def withReader (valueClass : ValueClass) (baseName pattern : String) (reader : LiteralReader t) :
    Except PatternError (Descriptor t) :=
  ofParts valueClass baseName pattern (some reader)

def withRenderer (d : Descriptor t) (renderer : Renderer t) : Descriptor t :=
  { d with renderer := some renderer }

def source (d : Descriptor t) : String := d.matcher.source

/-- Whether two descriptors are the same. Their value types do not matter. -/
def same (d : Descriptor t) (e : Descriptor u) : Bool :=
  d.valueClass = e.valueClass && d.baseName = e.baseName && d.source = e.source

def hashKey (d : Descriptor t) : String := d.source

def display (d : Descriptor t) (v : t.Carrier) : Call String :=
  match d.renderer with
  | some render => render v
  | none => .returned (t.toText v)

def debugText (pretty : Bool) (d : Descriptor t) : String :=
  Text.recordText pretty true "TypeDescriptor"
    [("value_class", d.valueClass.debugText), ("base_name", Text.quoted d.baseName),
      ("pattern", Text.quoted d.source),
      ("literal_parser", if d.reader.isSome then "true" else "false")]

end Descriptor

structure AnyDescriptor where
  type : ValueType
  descriptor : Descriptor type

namespace AnyDescriptor

def valueClass (d : AnyDescriptor) : ValueClass := d.descriptor.valueClass

def baseName (d : AnyDescriptor) : String := d.descriptor.baseName

def matcher (d : AnyDescriptor) : Matcher := d.descriptor.matcher

def source (d : AnyDescriptor) : String := d.matcher.source

def identity (d : AnyDescriptor) : Identity := ⟨d.valueClass, d.baseName, d.source⟩

def same (d e : AnyDescriptor) : Bool :=
  d.valueClass = e.valueClass && d.baseName = e.baseName && d.source = e.source

def hashKey (d : AnyDescriptor) : String := d.source

def as? (d : AnyDescriptor) (t : ValueType) : Option (Descriptor t) :=
  if h : d.type = t then some (h ▸ d.descriptor) else none

/-- Whether the first match of the pattern is all of a word. If so, whether the plural group took
some of it. -/
def recognize? (d : AnyDescriptor) (word : String) : Option Bool :=
  match d.matcher.form.firstMatch? word.toList with
  | none => none
  | some m =>
    if m.extent = ⟨0, word.utf8ByteSize⟩ then
      let plural := (d.matcher.groupIndex? Plural.groupName).bind m.group?
      some (plural.any fun e => e.start ≠ e.stop)
    else none

end AnyDescriptor

end ScriptTypes
