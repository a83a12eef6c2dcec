import ScriptTypes.Registry

/-!
Sessions: named slots that hold descriptors, a set of descriptors, and a registry. What goes into
the set or the registry is a copy; later changes to the slot do not reach it.
-/

namespace ScriptTypes

inductive Constructor where
  | ofType
  | new
  | withReader
  | ofParts
  deriving DecidableEq

structure Request where
  baseName : String
  pattern : String
  type : ValueType
  valueClass : ValueClass
  reader : Option ReaderName
  renderer : Option RendererName
  constructor : Constructor

namespace Request

/-- Some constructors fix the class or the reader, and what the request says of it is ignored. -/
def build (q : Request) : Except PatternError AnyDescriptor := do
  let reader := q.reader.map (·.reader q.type)
  let d : Descriptor q.type ←
    match q.constructor, reader with
    | .ofType, _ => Descriptor.ofType q.type q.baseName q.pattern
    | .new, _ => Descriptor.new q.type q.valueClass q.baseName q.pattern
    | .withReader, some reader => Descriptor.withReader q.valueClass q.baseName q.pattern reader
    | .withReader, none => Descriptor.ofParts q.valueClass q.baseName q.pattern none
    | .ofParts, reader => Descriptor.ofParts q.valueClass q.baseName q.pattern reader
  return ⟨q.type, match q.renderer with
    | some renderer => d.withRenderer (renderer.renderer q.type)
    | none => d⟩

end Request

structure Summary where
  className : String
  baseName : String
  source : String
  hasReader : Bool
  hasRenderer : Bool
  groups : List (Option String)
  deriving DecidableEq

def AnyDescriptor.summary (d : AnyDescriptor) : Summary where
  className := d.valueClass.name
  baseName := d.baseName
  source := d.source
  hasReader := d.descriptor.reader.isSome
  hasRenderer := d.descriptor.renderer.isSome
  groups := d.matcher.groupNames

structure Comparison where
  same : Bool
  sameErased : Bool
  sameHash : Bool
  sameErasedHash : Bool
  sameClass : Bool
  deriving DecidableEq

def AnyDescriptor.compare (d e : AnyDescriptor) : Comparison where
  same := d.descriptor.same e.descriptor
  sameErased := d.same e
  sameHash := d.descriptor.hashKey = e.descriptor.hashKey
  sameErasedHash := d.hashKey = e.hashKey
  sameClass := d.valueClass = e.valueClass

inductive ReadResult where
  | noReader
  | rejected
  | value (text : String)
  | crashed (message : String)
  deriving DecidableEq

def Descriptor.read {t : ValueType} (d : Descriptor t) (text : String) : ReadResult :=
  match d.reader with
  | none => .noReader
  | some reader =>
    match reader text with
    | .returned none => .rejected
    | .returned (some v) => .value (t.toText v)
    | .crashed message => .crashed message

inductive ShowResult where
  | badValue
  | text (text : String)
  | crashed (message : String)
  deriving DecidableEq

def Descriptor.showText {t : ValueType} (d : Descriptor t) (value : String) : ShowResult :=
  match t.ofText? value with
  | none => .badValue
  | some v =>
    match d.display v with
    | .returned text => .text text
    | .crashed message => .crashed message

structure Abilities where
  hasReader : Bool
  hasRenderer : Bool
  deriving DecidableEq

def AnyDescriptor.abilities? (d : AnyDescriptor) (t : ValueType) : Option Abilities :=
  (d.as? t).map fun d => ⟨d.reader.isSome, d.renderer.isSome⟩

inductive Lookup (α : Type) where
  | unregistered
  | wrongType
  | found (answer : α)
  deriving DecidableEq

inductive Step where
  | make (slot : String) (request : Request)
  | clone (origin slot : String)
  | withRenderer (slot : String) (renderer : Option RendererName)
  | drop (slot : String)
  | describe (slot : String)
  | debug (slot : String) (pretty : Bool)
  | compare (a b : String)
  | read (slot text : String)
  | display (slot value : String)
  | captures (slot text : String)
  | downcast (slot : String) (type : ValueType)
  | setInsert (slot : String)
  | setReplace (slot : String)
  | setRemove (slot : String)
  | setContains (slot : String)
  | setGet (slot : String) (type : ValueType)
  | setList
  | register (slot : String)
  | registry
  | lookupName (name : String) (type : ValueType)
  | coerce (name : String) (type : ValueType) (text : String)
  | lookupWord (word : String)

inductive Answer where
  | noSlot
  | rejected (error : PatternError)
  | summary (summary : Summary)
  | dropped (existed : Bool)
  | debugText (text : String)
  | comparison (comparison : Comparison)
  | read (result : ReadResult)
  | display (result : ShowResult)
  | captures (text : String) (captures : Option Pattern.Matcher.Captures)
  | abilities (abilities : Option Abilities)
  | inserted (fresh : Bool) (size : Nat)
  | replaced (existed : Bool) (size : Nat)
  | removed (existed : Bool) (size : Nat)
  | contains (found : Bool)
  | listing (rows : List Listing)
  | registered (fresh : Bool) (seen names : Nat)
  | lookup (result : Lookup (Option Abilities))
  | coerced (result : Lookup ReadResult)
  | word (found : Option (String × Bool))

structure Session where
  slots : SortedMap AnyDescriptor
  set : DescriptorSet
  registry : Registry

namespace Session

def empty : Session := ⟨[], .empty, .empty⟩

def withSlot (s : Session) (slot : String) (act : AnyDescriptor → Answer × Session) :
    Answer × Session :=
  match s.slots.get? slot with
  | none => (.noSlot, s)
  | some d => act d

def store (s : Session) (slot : String) (d : AnyDescriptor) : Session :=
  { s with slots := SortedMap.put slot d s.slots }

def step (s : Session) : Step → Answer × Session
  | .make slot request =>
    match request.build with
    | .error e => (.rejected e, s)
    | .ok d => (.summary d.summary, s.store slot d)
  | .clone origin slot => s.withSlot origin fun d => (.summary d.summary, s.store slot d)
  | .withRenderer slot renderer => s.withSlot slot fun d =>
    let d : AnyDescriptor :=
      match renderer with
      | none => d
      | some renderer => ⟨d.type, d.descriptor.withRenderer (renderer.renderer d.type)⟩
    (.summary d.summary, s.store slot d)
  | .drop slot =>
    (.dropped (s.slots.get? slot).isSome, { s with slots := s.slots.erase slot })
  | .describe slot => s.withSlot slot fun d => (.summary d.summary, s)
  | .debug slot pretty => s.withSlot slot fun d => (.debugText (d.descriptor.debugText pretty), s)
  | .compare a b => s.withSlot a fun d => s.withSlot b fun e => (.comparison (d.compare e), s)
  | .read slot text => s.withSlot slot fun d => (.read (d.descriptor.read text), s)
  | .display slot value => s.withSlot slot fun d => (.display (d.descriptor.showText value), s)
  | .captures slot text => s.withSlot slot fun d =>
    (.captures text (d.matcher.captures? Plural.groupName text), s)
  | .downcast slot type => s.withSlot slot fun d => (.abilities (d.abilities? type), s)
  | .setInsert slot => s.withSlot slot fun d =>
    let set := s.set.insert d
    (.inserted (!s.set.contains d) set.size, { s with set })
  | .setReplace slot => s.withSlot slot fun d =>
    let set := s.set.replace d
    (.replaced (s.set.contains d) set.size, { s with set })
  | .setRemove slot => s.withSlot slot fun d =>
    let set := s.set.erase d
    (.removed (s.set.contains d) set.size, { s with set })
  | .setContains slot => s.withSlot slot fun d => (.contains (s.set.contains d), s)
  | .setGet slot type => s.withSlot slot fun d =>
    (.abilities ((s.set.get? d).bind (·.abilities? type)), s)
  | .setList =>
    (.listing ((s.set.members.map Listing.of).mergeSort Listing.le), s)
  | .register slot => s.withSlot slot fun d =>
    let registry := s.registry.register d
    (.registered (!s.registry.seen.contains d) registry.seen.size registry.byName.length,
      { s with registry })
  | .registry => (.listing s.registry.listing, s)
  | .lookupName name type =>
    (.lookup (match s.registry.find? name with
      | none => .unregistered
      | some d => .found (d.abilities? type)), s)
  | .coerce name type text =>
    (.coerced (match s.registry.find? name with
      | none => .unregistered
      | some d =>
        match d.as? type with
        | none => .wrongType
        | some d => .found (d.read text)), s)
  | .lookupWord word => (.word (s.registry.findWord? word), s)

def run (s : Session) : List Step → List Answer × Session
  | [] => ([], s)
  | step :: rest =>
    let (answer, s) := s.step step
    let (answers, s) := s.run rest
    (answer :: answers, s)

end Session

end ScriptTypes
