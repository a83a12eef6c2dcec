import ScriptTypes.Descriptor

/-!
What the construction of a descriptor reports while it runs. A subscriber sees the records up to
its level; an event names the span that it is in if the subscriber sees that span. The outcome is
computed along with the reports.
-/

namespace ScriptTypes.Trace

inductive Level where
  | error
  | warn
  | info
  | debug
  | trace
  deriving DecidableEq

namespace Level

def rank : Level → Nat
  | error => 1
  | warn => 2
  | info => 3
  | debug => 4
  | trace => 5

def name : Level → String
  | error => "ERROR"
  | warn => "WARN"
  | info => "INFO"
  | debug => "DEBUG"
  | trace => "TRACE"

end Level

abbrev Verbosity := Option Level

def Verbosity.sees (v : Verbosity) (level : Level) : Bool :=
  match v with
  | none => false
  | some most => level.rank ≤ most.rank

def target : String := "skp_types::descriptor"

inductive Record where
  | span (name : String) (level : Level) (fields : List (String × String))
  | enter
  | event (level : Level) (inSpan : Option String) (fields : List (String × String))
  | exit
  | close
  deriving DecidableEq

def spanName : String := "compile"

/-- What is computed for a subscriber within a span that it sees, or within none, and the records
that the subscriber gets meanwhile. -/
def Reporting (α : Type) : Type := Verbosity → Option String → α × List Record

instance : Monad Reporting where
  pure a := fun _ _ => (a, [])
  bind act next := fun v inSpan =>
    let (a, first) := act v inSpan
    let (b, later) := next a v inSpan
    (b, first ++ later)

namespace Reporting

def event (level : Level) (fields : List (String × String)) : Reporting Unit := fun v inSpan =>
  ((), if v.sees level then [.event level inSpan fields] else [])

def withSpan {α : Type} (name : String) (level : Level) (fields : List (String × String))
    (act : Reporting α) : Reporting α := fun v outer =>
  if v.sees level then
    let (a, records) := act v (some name)
    (a, [.span name level fields, .enter] ++ records ++ [.exit, .close])
  else act v outer

end Reporting

def reportExtension (normalized : Plural.Normalized) : Reporting Unit :=
  if normalized.isKept then pure ()
  else
    .event .trace
      [("message", "appended plural group"), ("normalized", .ofList normalized.source)]

def reportingSource (baseName source : String) :
    Reporting (Except PatternError Pattern.Matcher) :=
  match Pattern.Matcher.ofSource? source with
  | .ok matcher => return .ok matcher
  | .error rejection => do
    .event .debug [("message", "rejected type pattern"), ("source", source),
      ("error", rejection.message source)]
    return .error ⟨baseName, source, rejection⟩

def reportingCompile (baseName pattern : String) : Reporting (Except PatternError Pattern.Matcher) :=
  .withSpan spanName .trace [("base_name", baseName)] do
    let normalized := Plural.normalize pattern.toList
    reportExtension normalized
    reportingSource baseName (.ofList normalized.source)

def recordsOf (v : Verbosity) (baseName pattern : String) : List Record :=
  (reportingCompile baseName pattern v none).2

end ScriptTypes.Trace
