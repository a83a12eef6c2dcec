import ScriptTypes.Pattern.Fault
import ScriptTypes.Pattern.Form
import ScriptTypes.Text.Blank
import ScriptTypes.Unicode.Folding
import ScriptTypes.Unicode.Word

/-!
From what a pattern says to what it matches. Flags hold from where they are set to the end of the
group, through all its later branches. What needs Unicode is refused where it is switched off,
and so is what would match bytes that are no text.
-/

namespace ScriptTypes.Pattern

open ScriptTypes.Unicode (CharSet)

structure Flags where
  ignoreCase : Bool := false
  multiLine : Bool := false
  dotAll : Bool := false
  swapGreed : Bool := false
  unicode : Bool := true
  crlf : Bool := false
  deriving DecidableEq

namespace Flags

def change (f : Flags) (changes : FlagChanges) : Flags :=
  changes.foldl (fun f (flag, on) =>
    match flag with
    | .ignoreCase => { f with ignoreCase := on }
    | .multiLine => { f with multiLine := on }
    | .dotAll => { f with dotAll := on }
    | .swapGreed => { f with swapGreed := on }
    | .unicode => { f with unicode := on }
    | .crlf => { f with crlf := on }
    | .spaced => f) f

def fold (f : Flags) (set : CharSet) : CharSet :=
  if !f.ignoreCase then set else if f.unicode then set.foldCase else set.foldAscii

def alphabet (f : Flags) : Alphabet := if f.unicode then .characters else .bytes

def look (f : Flags) : Assertion → Look
  | .textStart => .textStart
  | .textEnd => .textEnd
  | .lineStart => if !f.multiLine then .textStart else if f.crlf then .crlfLineStart else .lineStart
  | .lineEnd => if !f.multiLine then .textEnd else if f.crlf then .crlfLineEnd else .lineEnd
  | .word place => .word place f.unicode

end Flags

def Shorthand.set (kind : Shorthand) (unicode : Bool) : CharSet :=
  match kind, unicode with
  | .digit, true => Unicode.decimalDigits
  | .digit, false => ⟨[(48, 57)]⟩
  | .space, true => ⟨Text.blankRanges⟩
  | .space, false => ⟨[(9, 13), (32, 32)]⟩
  | .word, true => Unicode.wordChars
  | .word, false => ⟨[(48, 57), (65, 90), (95, 95), (97, 122)]⟩

def AsciiClass.set : AsciiClass → CharSet
  | alnum => ⟨[(48, 57), (65, 90), (97, 122)]⟩
  | alpha => ⟨[(65, 90), (97, 122)]⟩
  | ascii => ⟨[(0, 127)]⟩
  | blank => ⟨[(9, 9), (32, 32)]⟩
  | cntrl => ⟨[(0, 31), (127, 127)]⟩
  | digit => ⟨[(48, 57)]⟩
  | graph => ⟨[(33, 126)]⟩
  | lower => ⟨[(97, 122)]⟩
  | print => ⟨[(32, 126)]⟩
  | punct => ⟨[(33, 47), (58, 64), (91, 96), (123, 126)]⟩
  | space => ⟨[(9, 13), (32, 32)]⟩
  | upper => ⟨[(65, 90)]⟩
  | word => ⟨[(48, 57), (65, 90), (95, 95), (97, 122)]⟩
  | xdigit => ⟨[(48, 57), (65, 70), (97, 102)]⟩

namespace Flags

/-- Negates a set if asked to. Without Unicode the rest of a set has bytes beyond ASCII, which
are no text. -/
def negate (f : Flags) (span : Text.Span) (negated : Bool) (set : CharSet) :
    Except Fault CharSet :=
  if !negated then .ok set
  else if f.unicode then .ok set.complement
  else .error ⟨.invalidUtf8, span, none⟩

def checkByte (f : Flags) (l : Literal) : Except Fault Unit :=
  if !f.unicode && l.isByte && 0x80 ≤ l.char.toNat then .error ⟨.invalidUtf8, l.span, none⟩
  else .ok ()

def classChar (f : Flags) (l : Literal) : Except Fault Nat := do
  f.checkByte l
  if !f.unicode && 0x80 ≤ l.char.toNat then throw ⟨.unicodeNotAllowed, l.span, none⟩
  return l.char.toNat

def propertySet (f : Flags) (span : Text.Span) (query : Unicode.PropertyQuery) (negated : Bool) :
    Except Fault CharSet :=
  if !f.unicode then .error ⟨.unicodeNotAllowed, span, none⟩
  else
    match query.set with
    | .error .noProperty => .error ⟨.propertyNotFound, span, none⟩
    | .error .noValue => .error ⟨.propertyValueNotFound, span, none⟩
    | .ok set => f.negate span negated (f.fold set)

end Flags

mutual

/-- Puts the characters of a class to those of what stands before it in its brackets. -/
def ClassSet.addTo (f : Flags) (known : CharSet) : ClassSet → Except Fault CharSet
  | empty _ => .ok known
  | literal l => do
    let n ← f.classChar l
    return known.union ⟨[(n, n)]⟩
  | range _ low high => do
    let low ← f.classChar low
    let high ← f.classChar high
    return known.union ⟨[(low, high)]⟩
  | ascii span kind negated => do return known.union (← f.negate span negated (f.fold kind.set))
  | shorthand span kind negated => do
    return known.union (← f.negate span negated (kind.set f.unicode))
  | property span query negated => do return known.union (← f.propertySet span query negated)
  | bracketed span negated body => do
    let set ← body.addTo f .empty
    return known.union (← f.negate span negated (f.fold set))
  | union _ members => ClassSet.addAllTo f known members
  | operation _ operator lhs rhs => do
    let lhs := f.fold (← lhs.addTo f .empty)
    let rhs := f.fold (← rhs.addTo f .empty)
    return known.union (match operator with
      | .intersection => lhs.inter rhs
      | .difference => lhs.diff rhs
      | .symmetricDifference => lhs.symmDiff rhs)

def ClassSet.addAllTo (f : Flags) (known : CharSet) : List ClassSet → Except Fault CharSet
  | [] => .ok known
  | m :: rest => do ClassSet.addAllTo f (← m.addTo f known) rest

end

def ClassSet.set (f : Flags) (m : ClassSet) : Except Fault CharSet := m.addTo f .empty

def Flags.dot (f : Flags) (span : Text.Span) : Except Fault Form :=
  if !f.unicode then .error ⟨.invalidUtf8, span, none⟩
  else if f.dotAll then .ok (.ofSet .characters .full)
  else if f.crlf then .ok (.ofSet .characters (CharSet.ofCodes [10, 13]).complement)
  else .ok (.ofSet .characters (CharSet.singleton '\n').complement)

def Atom.form (f : Flags) : Atom → Except Fault Form
  | literal l => do
    f.checkByte l
    let foldable := f.ignoreCase && (f.unicode || l.char.toNat < 0x80)
    return if foldable then .ofSet f.alphabet (f.fold (.singleton l.char)) else .literal [l.char]
  | dot span => f.dot span
  | assertion _ kind => .ok (.look (f.look kind))
  | shorthand span kind negated => do
    return .ofSet f.alphabet (← f.negate span negated (kind.set f.unicode))
  | property span query negated => do
    return .ofSet f.alphabet (← f.propertySet span query negated)

mutual

/-- The form of an expression under flags, and the flags for what follows it in its group. -/
def Expr.form (f : Flags) : Expr → Except Fault (Form × Flags)
  | empty _ => .ok (.empty, f)
  | flags _ changes => .ok (.empty, f.change changes)
  | atom a => do return (← a.form f, f)
  | bracketed span negated body => do
    return (.ofSet f.alphabet (← f.negate span negated (f.fold (← body.set f))), f)
  | repetition _ low high greedy body => do
    let (form, after) ← body.form f
    return (.repeated low high (greedy != f.swapGreed) form, after)
  | group _ (.capture index name) body => do
    let (form, _) ← body.form f
    return (.capture index name form, f)
  | group _ (.plain changes) body => do
    let (form, _) ← body.form (f.change changes)
    return (form, f)
  | concat _ parts => do
    let (forms, after) ← Expr.forms f parts
    return (.concat forms, after)
  | alternation _ branches => do
    let (forms, after) ← Expr.forms f branches
    return (.alternation forms, after)

def Expr.forms (f : Flags) : List Expr → Except Fault (List Form × Flags)
  | [] => .ok ([], f)
  | e :: rest => do
    let (form, after) ← e.form f
    let (forms, after) ← Expr.forms after rest
    return (form :: forms, after)

end

end ScriptTypes.Pattern
