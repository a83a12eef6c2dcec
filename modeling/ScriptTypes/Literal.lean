import ScriptTypes.Text.Blank
import ScriptTypes.Value

/-!
Readers and renderers of literals that a descriptor can carry. They are supplied from outside and
may crash; whoever calls one must reckon with that.
-/

namespace ScriptTypes

/-- What a supplied function comes to: a result, or a crash with a message. -/
inductive Call (α : Type) where
  | returned (result : α)
  | crashed (message : String)
  deriving DecidableEq

def Call.orReject {α : Type} : Call (Option α) → Option α
  | .returned result => result
  | .crashed _ => none

abbrev LiteralReader (t : ValueType) := String → Call (Option t.Carrier)

abbrev Renderer (t : ValueType) := t.Carrier → Call String

namespace LiteralReader

def ofType (t : ValueType) : LiteralReader t := fun s => .returned (t.ofText? s)

def rejecting (t : ValueType) : LiteralReader t := fun _ => .returned none

def trimming (t : ValueType) : LiteralReader t := fun s => .returned (t.ofText? (Text.trim s))

def tag : String := "item:"

def tagged (t : ValueType) : LiteralReader t := fun s =>
  .returned <|
    if tag.toList.isPrefixOf s.toList then t.ofText? (.ofList (s.toList.drop tag.length)) else none

def nonEmpty (t : ValueType) : LiteralReader t := fun s =>
  if s.isEmpty then .crashed "empty literal" else .returned (t.ofText? s)

/-- Reads a number of 16 bits and crashes if it has more than 8. -/
def byte (t : ValueType) : LiteralReader t := fun s =>
  match integer? false s.toList with
  | none => .returned none
  | some n =>
    if 65535 < n then .returned none
    else if 255 < n then .crashed "byte literal out of range"
    else .returned (t.ofText? (.ofList (intChars n)))

end LiteralReader

namespace Renderer

def units (t : ValueType) : Renderer t := fun v => .returned (t.toText v ++ " units")

def hash (t : ValueType) : Renderer t := fun v => .returned ("#" ++ t.toText v)

def empty (t : ValueType) : Renderer t := fun _ => .returned ""

def yesNo (t : ValueType) : Renderer t := fun v =>
  .returned (if t.toText v = "true" then "yes" else "no")

def crashing (t : ValueType) : Renderer t := fun v => .crashed ("cannot render " ++ t.toText v)

end Renderer

inductive ReaderName where
  | ofType
  | rejecting
  | trimming
  | tagged
  | nonEmpty
  | byte
  deriving DecidableEq

def ReaderName.reader : ReaderName → (t : ValueType) → LiteralReader t
  | ofType => LiteralReader.ofType
  | rejecting => LiteralReader.rejecting
  | trimming => LiteralReader.trimming
  | tagged => LiteralReader.tagged
  | nonEmpty => LiteralReader.nonEmpty
  | byte => LiteralReader.byte

inductive RendererName where
  | units
  | hash
  | empty
  | yesNo
  | crashing
  deriving DecidableEq

def RendererName.renderer : RendererName → (t : ValueType) → Renderer t
  | units => Renderer.units
  | hash => Renderer.hash
  | empty => Renderer.empty
  | yesNo => Renderer.yesNo
  | crashing => Renderer.crashing

end ScriptTypes
