import ScriptTypes.Unicode.Age
import ScriptTypes.Unicode.Binary
import ScriptTypes.Unicode.Break
import ScriptTypes.Unicode.Category
import ScriptTypes.Unicode.PropertyName
import ScriptTypes.Unicode.Script

namespace ScriptTypes.Unicode

inductive PropertyQuery where
  | letter (name : Char)
  | named (name : String)
  | valued (property value : String)
  deriving DecidableEq

inductive PropertyFailure where
  | noProperty
  | noValue
  deriving DecidableEq

/-- Case, blanks, hyphens, underscores and a leading "is" do not distinguish names, and
characters beyond ASCII are passed over. The one name that starts with "is" keeps it. -/
def looseName (name : String) : String :=
  match name.toList with
  | i :: s :: rest =>
    if (i = 'i' || i = 'I') && (s = 's' || s = 'S') then
      let bare := fold rest
      if bare = ['c'] then "isc" else String.ofList bare
    else String.ofList (fold (i :: s :: rest))
  | short => String.ofList (fold short)
where
  fold (cs : List Char) : List Char :=
    (cs.filter fun c => c.toNat < 0x80 && c ≠ ' ' && c ≠ '_' && c ≠ '-').map Char.toLower

def words (text : String) : List String := divide [] text.toList
where
  divide (word : List Char) : List Char → List String
    | [] => [.ofList word.reverse]
    | c :: rest =>
      if c = ' ' then .ofList word.reverse :: divide [] rest else divide (c :: word) rest

def fullName? (names : List (String × String)) (key : String) : Option String :=
  if key.isEmpty then none
  else (names.find? fun n => looseName n.1 = key || (words n.2).contains key).map (·.1)

def assigned : CharSet := (((category? "Unassigned").getD .empty)).complement

def categoryByName (key : String) : Except PropertyFailure CharSet :=
  if key = "any" then .ok .full
  else if key = "ascii" then .ok ⟨[(0, 0x7f)]⟩
  else if key = "assigned" then .ok assigned
  else
    match (fullName? categoryNames key).bind category? with
    | some set => .ok set
    | none => .error .noValue

def isCategoryName (key : String) : Bool :=
  key = "any" || key = "ascii" || key = "assigned" || (fullName? categoryNames key).isSome

def valueSet (names table : List (String × String)) (key : String) :
    Except PropertyFailure CharSet :=
  match (fullName? names key).bind (List.lookup · table) with
  | some text => .ok (.ofTable text)
  | none => .error .noValue

def ageSet (key : String) : Except PropertyFailure CharSet :=
  match fullName? ageNames key with
  | none => .error .noValue
  | some version =>
    let later := (ageTable.dropWhile (·.1 ≠ version)).drop 1
    .ok (.ofRanges ((ageTable.take (ageTable.length - later.length)).flatMap fun row =>
      (CharSet.ofTable row.2).ranges))

/-- A bare name is a property that holds or not, else a general category, else a script. Three
short names are both a property and a category and mean the category. -/
def setByName (name : String) : Except PropertyFailure CharSet :=
  let key := looseName name
  let property? :=
    if key = "cf" || key = "sc" || key = "lc" then none else fullName? propertyNames key
  match property? with
  | some property =>
    match binaryTable.lookup property with
    | some text => .ok (.ofTable text)
    | none => .error .noProperty
  | none =>
    if isCategoryName key then categoryByName key
    else if (fullName? scriptNames key).isSome then valueSet scriptNames scriptTable key
    else .error .noProperty

def setByValue (property value : String) : Except PropertyFailure CharSet :=
  let key := looseName value
  match fullName? propertyNames (looseName property) with
  | none => .error .noProperty
  | some "General_Category" => categoryByName key
  | some "Script" => valueSet scriptNames scriptTable key
  | some "Script_Extensions" => valueSet scriptNames scriptExtensionTable key
  | some "Age" => ageSet key
  | some "Grapheme_Cluster_Break" => valueSet clusterNames clusterTable key
  | some "Word_Break" => valueSet wordRoleNames wordTable key
  | some "Sentence_Break" => valueSet sentenceNames sentenceTable key
  | some _ => .error .noValue

def PropertyQuery.set : PropertyQuery → Except PropertyFailure CharSet
  | letter c => setByName c.toString
  | named name => setByName name
  | valued property value => setByValue property value

end ScriptTypes.Unicode
