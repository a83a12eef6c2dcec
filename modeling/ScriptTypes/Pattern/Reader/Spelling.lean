import ScriptTypes.Pattern.Expr
import ScriptTypes.Unicode.Word

namespace ScriptTypes.Pattern

open ScriptTypes.Text
open ScriptTypes.Unicode (PropertyQuery)

inductive HexWidth where
  | two
  | four
  | eight
  deriving DecidableEq

def HexWidth.digits : HexWidth → Nat
  | two => 2
  | four => 4
  | eight => 8

def isMeta (c : Char) : Bool :=
  ['\\', '.', '+', '*', '?', '(', ')', '|', '[', ']', '\x7b', '\x7d', '^', '$', '#', '&', '-',
    '~'].contains c

def isEscapable (c : Char) : Bool :=
  isMeta c || (c.toNat < 0x80 && !c.isAlphanum && c ≠ '<' && c ≠ '>')

def isNameStart (c : Char) : Bool := c = '_' || Unicode.isAlphabetic c

def isNamePart (c : Char) : Bool :=
  c = '_' || c = '.' || c = '[' || c = ']' || Unicode.isAlphabetic c || Unicode.isNumeric c

def isWordEdgeLetter (c : Char) : Bool := c.isAlpha || c = '-'

def hexValue? (c : Char) : Option Nat :=
  if c.isDigit then some (c.toNat - 48)
  else if 'a' ≤ c && c ≤ 'f' then some (c.toNat - 87)
  else if 'A' ≤ c && c ≤ 'F' then some (c.toNat - 55)
  else none

/-- The scalar value that hexadecimal digits, last first, spell. -/
def hexChar? (digits : List Char) : Option Char :=
  let n := digits.foldr (fun d n => 16 * n + (hexValue? d).getD 0) 0
  if n < 0xd800 || (0xdfff < n && n ≤ 0x10ffff) then some (Char.ofNat n) else none

def namedControl? (c : Char) : Option Char :=
  if c = 'a' then some '\x07'
  else if c = 'f' then some '\x0c'
  else if c = 't' then some '\t'
  else if c = 'n' then some '\n'
  else if c = 'r' then some '\r'
  else if c = 'v' then some '\x0b'
  else none

def shorthand? (c : Char) : Option (Shorthand × Bool) :=
  if c = 'd' then some (.digit, false)
  else if c = 's' then some (.space, false)
  else if c = 'w' then some (.word, false)
  else if c = 'D' then some (.digit, true)
  else if c = 'S' then some (.space, true)
  else if c = 'W' then some (.word, true)
  else none

def assertion? (c : Char) : Option Assertion :=
  if c = 'A' then some .textStart
  else if c = 'z' then some .textEnd
  else if c = 'B' then some (.word .inside)
  else if c = '<' then some (.word .start)
  else if c = '>' then some (.word .stop)
  else none

def hexWidth? (c : Char) : Option HexWidth :=
  if c = 'x' then some .two
  else if c = 'u' then some .four
  else if c = 'U' then some .eight
  else none

def wordEdge? (name : String) : Option WordEdge :=
  match name with
  | "start" => some .start
  | "end" => some .stop
  | "start-half" => some .startHalf
  | "end-half" => some .stopHalf
  | _ => none

def flag? (c : Char) : Option Flag :=
  if c = 'i' then some .ignoreCase
  else if c = 'm' then some .multiLine
  else if c = 's' then some .dotAll
  else if c = 'U' then some .swapGreed
  else if c = 'u' then some .unicode
  else if c = 'R' then some .crlf
  else if c = 'x' then some .spaced
  else none

def asciiClassNames : List (String × AsciiClass) := [
  ("alnum", .alnum), ("alpha", .alpha), ("ascii", .ascii), ("blank", .blank), ("cntrl", .cntrl),
  ("digit", .digit), ("graph", .graph), ("lower", .lower), ("print", .print), ("punct", .punct),
  ("space", .space), ("upper", .upper), ("word", .word), ("xdigit", .xdigit)
]

/-- What a bracketed property name asks for. The first operator divides name and value; of the
three spellings the one that denies equality is looked for first. -/
def propertyQuery (text : List Char) : PropertyQuery :=
  match divide ['!', '='] text with
  | some (name, value) => .valued (.ofList name) (.ofList value)
  | none =>
    match divide [':'] text with
    | some (name, value) => .valued (.ofList name) (.ofList value)
    | none =>
      match divide ['='] text with
      | some (name, value) => .valued (.ofList name) (.ofList value)
      | none => .named (.ofList text)
where
  divide (mark : List Char) : List Char → Option (List Char × List Char)
    | [] => none
    | c :: rest =>
      if mark.isPrefixOf (c :: rest) then some ([], (c :: rest).drop mark.length)
      else (divide mark rest).map fun (name, value) => (c :: name, value)

/-- The ASCII class that `text` opens with, behind a bracket: a colon, perhaps a caret, a name
without a colon, and a colon and a bracket. With it, its length. -/
def asciiClass? (text : List Char) : Option (Nat × AsciiClass × Bool) :=
  match text with
  | ':' :: rest =>
    let negated := rest.head? = some '^'
    let body := if negated then rest.drop 1 else rest
    let name := body.takeWhile (· ≠ ':')
    match body.drop name.length with
    | ':' :: ']' :: _ =>
      (asciiClassNames.lookup (.ofList name)).map fun kind =>
        (name.length + (if negated then 4 else 3), kind, negated)
    | _ => none
  | _ => none

def ahead (p : Position) (n : Nat) (text : List Char) : Position :=
  (text.take n).foldl Position.after p

end ScriptTypes.Pattern
