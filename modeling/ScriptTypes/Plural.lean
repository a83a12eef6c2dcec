import ScriptTypes.Text.Blank
import ScriptTypes.Text.Bytes

/-!
The plural group. A pattern shows the plural form of a name by what its group `plural` takes. A
pattern without one gets a group that takes nothing and prefers to take no part.
-/

namespace ScriptTypes.Plural

open ScriptTypes.Text

def groupName : String := "plural"

def opener : List Char := ['(', '?', '<', 'p', 'l', 'u', 'r', 'a', 'l', '>']

def suffix : List Char := ['(', '?', '<', 'p', 'l', 'u', 'r', 'a', 'l', '>', ')', '?', '?']

def afterOpener? (cs : List Char) : Option (List Char) :=
  if opener.isPrefixOf cs then some (cs.drop opener.length) else none

theorem length_afterOpener {cs rest : List Char} (h : afterOpener? cs = some rest) :
    rest.length < cs.length := by
  unfold afterOpener? at h
  split at h
  · rename_i found
    have long := (List.isPrefixOf_iff_prefix.1 found).length_le
    have : 0 < opener.length := by decide
    cases h
    rw [List.length_drop]
    omega
  · cases h

/-- Looks for an opener from left to right and behind each one found, and asks whether the
character before it is a backslash. `before` is the character before the text. -/
def opens (before : Option Char) (cs : List Char) : Bool :=
  match _h : afterOpener? cs with
  | some rest => before ≠ some '\\' || opens (some '>') rest
  | none =>
    match cs with
    | [] => false
    | c :: rest => opens (some c) rest
termination_by cs.length
decreasing_by
  · exact length_afterOpener (by assumption)
  · simp

/-- Whether a pattern opens a plural group that no backslash escapes. This looks at the text
alone: a backslash counts even if it is escaped itself. -/
def hasGroup (pattern : List Char) : Bool := opens none pattern

def openerText : String := .ofList opener

def openerOffsets (pattern : String) : List Nat :=
  offsetsFrom (bytes openerText) 0 (bytes pattern)

/-- Whether no backslash stands before an offset. Nothing can be told if a character would be cut
apart. -/
def isFreeAt? (pattern : String) (offset : Nat) : Option Bool :=
  (textBefore? pattern offset).map fun before => !before.endsWith '\\'

/-- The search for a plural group on the bytes of a pattern. It looks at the openers found, one after
the other, until no backslash stands before one, and fails where nothing can be told. -/
def scan? (pattern : String) : Option Bool :=
  (openerOffsets pattern).anyM (isFreeAt? pattern)

inductive Normalized where
  /-- The trimmed pattern had a plural group and is kept. -/
  | kept (source : List Char)
  /-- The trimmed pattern had none and the suffix was added. -/
  | extended (source : List Char)
  deriving DecidableEq

def Normalized.source : Normalized → List Char
  | kept source => source
  | extended source => source

def Normalized.isKept : Normalized → Bool
  | kept _ => true
  | extended _ => false

def normalize (pattern : List Char) : Normalized :=
  let trimmed := trimChars pattern
  if hasGroup trimmed then .kept trimmed else .extended (trimmed ++ suffix)

def isStable (pattern : List Char) : Bool :=
  (normalize (normalize pattern).source).source = (normalize pattern).source

def normalizedSource (pattern : String) : String :=
  .ofList (normalize pattern.toList).source

end ScriptTypes.Plural
