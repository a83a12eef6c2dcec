import ScriptTypes.Descriptor

namespace ScriptTypes

/-- Descriptors no two of which are the same, in the order of insertion. -/
structure DescriptorSet where
  members : List AnyDescriptor

namespace DescriptorSet

def empty : DescriptorSet := ⟨[]⟩

def size (s : DescriptorSet) : Nat := s.members.length

def get? (s : DescriptorSet) (d : AnyDescriptor) : Option AnyDescriptor :=
  s.members.find? (·.same d)

def contains (s : DescriptorSet) (d : AnyDescriptor) : Bool := (s.get? d).isSome

def insert (s : DescriptorSet) (d : AnyDescriptor) : DescriptorSet :=
  if s.contains d then s else ⟨s.members ++ [d]⟩

def replace (s : DescriptorSet) (d : AnyDescriptor) : DescriptorSet :=
  if s.contains d then ⟨s.members.map fun m => if m.same d then d else m⟩ else ⟨s.members ++ [d]⟩

def erase (s : DescriptorSet) (d : AnyDescriptor) : DescriptorSet :=
  ⟨s.members.filter fun m => !m.same d⟩

end DescriptorSet

abbrev SortedMap (α : Type) := List (String × α)

namespace SortedMap

variable {α : Type}

def put (key : String) (value : α) : SortedMap α → SortedMap α
  | [] => [(key, value)]
  | (k, v) :: rest =>
    if key = k then (key, value) :: rest
    else if key < k then (key, value) :: (k, v) :: rest
    else (k, v) :: put key value rest

def get? (m : SortedMap α) (key : String) : Option α := List.lookup key m

def erase (m : SortedMap α) (key : String) : SortedMap α := List.filter (fun e => e.1 ≠ key) m

end SortedMap

structure Listing where
  baseName : String
  source : String
  className : String
  deriving DecidableEq

namespace Listing

def of (d : AnyDescriptor) : Listing := ⟨d.baseName, d.source, d.valueClass.name⟩

def le (a b : Listing) : Bool :=
  if a.baseName ≠ b.baseName then a.baseName < b.baseName
  else if a.source ≠ b.source then a.source < b.source
  else a.className ≤ b.className

end Listing

structure Registry where
  seen : DescriptorSet
  byName : SortedMap AnyDescriptor

namespace Registry

def empty : Registry := ⟨.empty, []⟩

/-- A descriptor that was not registered before takes its name over; one that was changes
nothing. -/
def register (r : Registry) (d : AnyDescriptor) : Registry :=
  if r.seen.contains d then r else ⟨r.seen.insert d, SortedMap.put d.baseName d r.byName⟩

def find? (r : Registry) (name : String) : Option AnyDescriptor := r.byName.get? name

def listing (r : Registry) : List Listing := r.byName.map fun e => Listing.of e.2

def findWord? (r : Registry) (word : String) : Option (String × Bool) :=
  r.byName.findSome? fun e => (e.2.recognize? word).map fun plural => (e.1, plural)

end Registry

end ScriptTypes
