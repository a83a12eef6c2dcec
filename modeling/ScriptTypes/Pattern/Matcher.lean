import ScriptTypes.Pattern.Matching
import ScriptTypes.Pattern.Meaning
import ScriptTypes.Pattern.Reader
import ScriptTypes.Pattern.Weight

namespace ScriptTypes.Pattern

inductive Rejection where
  | invalid (fault : Fault)
  | tooLarge (limit : Nat)
  deriving DecidableEq

def Rejection.message (source : String) : Rejection → String
  | invalid fault => fault.report source.toList
  | tooLarge limit => "Compiled regex exceeds size limit of " ++ toString limit ++ " bytes."

structure Matcher where
  source : String
  form : Form
  deriving DecidableEq

namespace Matcher

def formOf? (text : List Char) : Except Rejection Form :=
  match do (← Expr.ofText? text).form {} with
  | .error fault => .error (.invalid fault)
  | .ok (form, _) => if form.fits then .ok form else .error (.tooLarge weightLimit)

def ofSource? (source : String) : Except Rejection Matcher := do
  return ⟨source, ← formOf? source.toList⟩

/-- The names of the groups by index. The whole match and groups without a name have none, nor has
an index below the last whose group can never take part. -/
def groupNames (m : Matcher) : List (Option String) :=
  let captures := m.form.captures
  let last := captures.foldl (fun n c => max n c.1) 0
  none :: (List.range last).map fun n => (captures.lookup (n + 1)).join

def groupIndex? (m : Matcher) (name : String) : Option Nat :=
  (m.groupNames.zipIdx.find? fun g => g.1 = some name).map (·.2)

structure Captures where
  groups : List (Option Extent)
  named : Option Extent
  all : List Extent
  deriving DecidableEq

def captures? (m : Matcher) (name text : String) : Option Captures :=
  (m.form.firstMatch? text.toList).map fun first =>
    { groups := (List.range m.groupNames.length).map first.group?
      named := (m.groupIndex? name).bind first.group?
      all := (m.form.allMatches text.toList).map (·.extent) }

end Matcher

def Extent.of (e : Extent) (text : String) : String :=
  .ofList (cut 0 text.toList)
where
  cut (offset : Nat) : List Char → List Char
    | [] => []
    | c :: rest =>
      let tail := cut (offset + c.utf8Size) rest
      if e.start ≤ offset && offset < e.stop then c :: tail else tail

end ScriptTypes.Pattern
