import ScriptTypes.Text.Position

/-!
What can be wrong with a pattern, and the report that shows it. A report repeats the pattern
with marks under the place at fault and ends with the cause.
-/

namespace ScriptTypes.Pattern

open ScriptTypes.Text

inductive Cause where
  | classEscapeInvalid
  | classRangeInvalid
  | classRangeLiteral
  | classUnclosed
  | decimalInvalid
  | escapeHexEmpty
  | escapeHexInvalid
  | escapeHexDigitInvalid
  | escapeCutShort
  | escapeUnknown
  | flagNegationDangling
  | flagDuplicate
  | flagNegationRepeated
  | flagMissing
  | flagUnknown
  | groupNameDuplicate
  | groupNameEmpty
  | groupNameInvalid
  | groupNameUnclosed
  | groupUnclosed
  | groupUnopened
  | tooDeep (limit : Nat)
  | repetitionRangeInvalid
  | repetitionCountEmpty
  | repetitionUnclosed
  | repetitionMissing
  | wordEdgeUnclosed
  | wordEdgeUnknown
  | wordEdgeOrRepetitionCutShort
  | propertyInvalid
  | backreference
  | lookAround
  | unicodeNotAllowed
  | invalidUtf8
  | propertyNotFound
  | propertyValueNotFound
  deriving DecidableEq

def Cause.message : Cause → String
  | classEscapeInvalid => "invalid escape sequence found in character class"
  | classRangeInvalid => "invalid character class range, the start must be <= the end"
  | classRangeLiteral => "invalid range boundary, must be a literal"
  | classUnclosed => "unclosed character class"
  | decimalInvalid => "decimal literal invalid"
  | escapeHexEmpty => "hexadecimal literal empty"
  | escapeHexInvalid => "hexadecimal literal is not a Unicode scalar value"
  | escapeHexDigitInvalid => "invalid hexadecimal digit"
  | escapeCutShort => "incomplete escape sequence, reached end of pattern prematurely"
  | escapeUnknown => "unrecognized escape sequence"
  | flagNegationDangling => "dangling flag negation operator"
  | flagDuplicate => "duplicate flag"
  | flagNegationRepeated => "flag negation operator repeated"
  | flagMissing => "expected flag but got end of regex"
  | flagUnknown => "unrecognized flag"
  | groupNameDuplicate => "duplicate capture group name"
  | groupNameEmpty => "empty capture group name"
  | groupNameInvalid => "invalid capture group character"
  | groupNameUnclosed => "unclosed capture group name"
  | groupUnclosed => "unclosed group"
  | groupUnopened => "unopened group"
  | tooDeep limit =>
    "exceed the maximum number of nested parentheses/brackets (" ++ toString limit ++ ")"
  | repetitionRangeInvalid => "invalid repetition count range, the start must be <= the end"
  | repetitionCountEmpty => "repetition quantifier expects a valid decimal"
  | repetitionUnclosed => "unclosed counted repetition"
  | repetitionMissing => "repetition operator missing expression"
  | wordEdgeUnclosed =>
    "special word boundary assertion is either unclosed or contains an invalid character"
  | wordEdgeUnknown =>
    "unrecognized special word boundary assertion, valid choices are: " ++
      "start, end, start-half or end-half"
  | wordEdgeOrRepetitionCutShort =>
    "found either the beginning of a special word boundary or a bounded repetition on a \\b " ++
      "with an opening brace, but no closing brace"
  | propertyInvalid => "invalid Unicode character class"
  | backreference => "backreferences are not supported"
  | lookAround => "look-around, including look-ahead and look-behind, is not supported"
  | unicodeNotAllowed => "Unicode not allowed here"
  | invalidUtf8 => "pattern can match invalid UTF-8"
  | propertyNotFound => "Unicode property not found"
  | propertyValueNotFound => "Unicode property value not found"

structure Fault where
  cause : Cause
  span : Span
  earlier : Option Span := none
  deriving DecidableEq

/-- The lines of a text without their line ends. A final line end opens no further line. -/
def linesOf (cs : List Char) : List (List Char) := collect [] cs
where
  collect (line : List Char) : List Char → List (List Char)
    | [] => if line.isEmpty then [] else [line.reverse]
    | c :: rest =>
      if c = '\n' then (dropReturn line).reverse :: collect [] rest else collect (c :: line) rest
  dropReturn : List Char → List Char
    | [] => []
    | c :: rest => if c = '\r' then rest else c :: rest

namespace Fault

def spans (f : Fault) : List Span :=
  match f.earlier with
  | none => [f.span]
  | some e =>
    if e.start.offset < f.span.start.offset ||
      (e.start.offset = f.span.start.offset && e.stop.offset < f.span.stop.offset) then [e, f.span]
    else [f.span, e]

def marks (spans : List Span) : List Char := draw 0 spans
where
  draw (column : Nat) : List Span → List Char
    | [] => []
    | s :: rest =>
      let gap := s.start.column - 1 - column
      let width := max 1 (s.stop.column - s.start.column)
      List.replicate gap ' ' ++ List.replicate width '^' ++ draw (column + gap + width) rest

/-- The lines of the pattern, each followed by its marks. A pattern of more than one line has
its lines numbered. -/
def annotated (f : Fault) (pattern : List Char) : String :=
  let lines := linesOf pattern
  let count := lines.length + if pattern.getLast? = some '\n' then 1 else 0
  let width := if count ≤ 1 then 0 else (toString count).length
  let margin := if width = 0 then 4 else width + 2
  let oneLine := f.spans.filter Span.isOneLine
  let line (n : Nat) (text : List Char) : List Char :=
    let number := toString n
    let head :=
      if width = 0 then List.replicate 4 ' '
      else List.replicate (width - number.length) ' ' ++ number.toList ++ [':', ' ']
    let here := oneLine.filter fun s => s.start.line = n
    let below := if here.isEmpty then [] else List.replicate margin ' ' ++ marks here ++ ['\n']
    head ++ text ++ ['\n'] ++ below
  .ofList ((lines.zipIdx 1).flatMap fun (text, n) => line n text)

def divider : String := .ofList (List.replicate 79 '~')

def notes (f : Fault) : String :=
  let wide := f.spans.filter fun s => !s.isOneLine
  let note (s : Span) : String :=
    "on line " ++ toString s.start.line ++ " (column " ++ toString s.start.column ++
      ") through line " ++ toString s.stop.line ++ " (column " ++ toString (s.stop.column - 1) ++
      ")"
  if wide.isEmpty then "" else "\n".intercalate (wide.map note) ++ "\n"

def report (f : Fault) (pattern : List Char) : String :=
  let body :=
    if pattern.contains '\n' then divider ++ "\n" ++ f.annotated pattern ++ divider ++ "\n" ++ f.notes
    else f.annotated pattern
  "regex parse error:\n" ++ body ++ "error: " ++ f.cause.message

end Fault

end ScriptTypes.Pattern
