import ScriptTypes.Text.Position
import ScriptTypes.Unicode.Property

namespace ScriptTypes.Pattern

open ScriptTypes.Text
open ScriptTypes.Unicode (PropertyQuery)

inductive Flag where
  | ignoreCase
  | multiLine
  | dotAll
  | swapGreed
  | unicode
  | crlf
  | spaced
  deriving DecidableEq

abbrev FlagChanges := List (Flag × Bool)

structure Literal where
  span : Span
  char : Char
  /-- Written as `\x` with two digits, the one spelling that can mean a byte. -/
  isByte : Bool
  deriving DecidableEq

inductive Shorthand where
  | digit
  | space
  | word
  deriving DecidableEq

inductive WordEdge where
  | edge
  | inside
  | start
  | stop
  | startHalf
  | stopHalf
  deriving DecidableEq

inductive Assertion where
  | lineStart
  | lineEnd
  | textStart
  | textEnd
  | word (place : WordEdge)
  deriving DecidableEq

inductive Atom where
  | literal (l : Literal)
  | dot (span : Span)
  | assertion (span : Span) (kind : Assertion)
  | shorthand (span : Span) (kind : Shorthand) (negated : Bool)
  | property (span : Span) (query : PropertyQuery) (negated : Bool)
  deriving DecidableEq

def Atom.span : Atom → Span
  | literal l => l.span
  | dot s => s
  | assertion s _ => s
  | shorthand s _ _ => s
  | property s _ _ => s

inductive AsciiClass where
  | alnum
  | alpha
  | ascii
  | blank
  | cntrl
  | digit
  | graph
  | lower
  | print
  | punct
  | space
  | upper
  | word
  | xdigit
  deriving DecidableEq

inductive SetOperator where
  | intersection
  | difference
  | symmetricDifference
  deriving DecidableEq

inductive ClassSet where
  | empty (span : Span)
  | literal (l : Literal)
  | range (span : Span) (low high : Literal)
  | ascii (span : Span) (kind : AsciiClass) (negated : Bool)
  | shorthand (span : Span) (kind : Shorthand) (negated : Bool)
  | property (span : Span) (query : PropertyQuery) (negated : Bool)
  | bracketed (span : Span) (negated : Bool) (body : ClassSet)
  | union (span : Span) (members : List ClassSet)
  | operation (span : Span) (operator : SetOperator) (lhs rhs : ClassSet)

def ClassSet.span : ClassSet → Span
  | empty s => s
  | literal l => l.span
  | range s _ _ => s
  | ascii s _ _ => s
  | shorthand s _ _ => s
  | property s _ _ => s
  | bracketed s _ _ => s
  | union s _ => s
  | operation s _ _ _ => s

inductive GroupKind where
  | capture (index : Nat) (name : Option String)
  | plain (flags : FlagChanges)
  deriving DecidableEq

/-- A pattern as written. A concatenation or alternation has at least two parts. -/
inductive Expr where
  | empty (span : Span)
  | flags (span : Span) (changes : FlagChanges)
  | atom (a : Atom)
  | bracketed (span : Span) (negated : Bool) (body : ClassSet)
  | repetition (span : Span) (low : Nat) (high : Option Nat) (greedy : Bool) (body : Expr)
  | group (span : Span) (kind : GroupKind) (body : Expr)
  | concat (span : Span) (parts : List Expr)
  | alternation (span : Span) (branches : List Expr)

def Expr.span : Expr → Span
  | empty s => s
  | flags s _ => s
  | atom a => a.span
  | bracketed s _ _ => s
  | repetition s _ _ _ _ => s
  | group s _ _ => s
  | concat s _ => s
  | alternation s _ => s

def Expr.isRepeatable : Expr → Bool
  | empty _ => false
  | flags _ _ => false
  | _ => true

def depthLimit : Nat := 250

mutual

/-- The first node below the depth limit, in reading order, if `depth` nodes enclose this one.
Items without parts have no depth of their own. -/
def ClassSet.tooDeep? (depth : Nat) : ClassSet → Option Span
  | bracketed s _ body =>
    if depth ≥ depthLimit then some s else body.tooDeep? (depth + 1)
  | union s members =>
    if depth ≥ depthLimit then some s else ClassSet.anyTooDeep? (depth + 1) members
  | operation s _ lhs rhs =>
    if depth ≥ depthLimit then some s
    else (lhs.tooDeep? (depth + 1)).or (rhs.tooDeep? (depth + 1))
  | _ => none

def ClassSet.anyTooDeep? (depth : Nat) : List ClassSet → Option Span
  | [] => none
  | m :: rest => (m.tooDeep? depth).or (ClassSet.anyTooDeep? depth rest)

end

mutual

def Expr.tooDeep? (depth : Nat) : Expr → Option Span
  | bracketed s _ body =>
    if depth ≥ depthLimit then some s else body.tooDeep? (depth + 1)
  | repetition s _ _ _ body =>
    if depth ≥ depthLimit then some s else body.tooDeep? (depth + 1)
  | group s _ body =>
    if depth ≥ depthLimit then some s else body.tooDeep? (depth + 1)
  | concat s parts =>
    if depth ≥ depthLimit then some s else Expr.anyTooDeep? (depth + 1) parts
  | alternation s branches =>
    if depth ≥ depthLimit then some s else Expr.anyTooDeep? (depth + 1) branches
  | _ => none

def Expr.anyTooDeep? (depth : Nat) : List Expr → Option Span
  | [] => none
  | e :: rest => (e.tooDeep? depth).or (Expr.anyTooDeep? depth rest)

end

end ScriptTypes.Pattern
