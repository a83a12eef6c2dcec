/-!
Floating-point numbers of 53 bits, read from decimal text and written in the fewest digits that
read back. All steps are exact integer arithmetic.
-/

namespace ScriptTypes.Decimal

/-- A number is `mantissa * 2 ^ exponent`; the mantissa has 53 bits unless the exponent is the
least. -/
inductive Double where
  | nan
  | infinite (negative : Bool)
  | finite (negative : Bool) (mantissa : Nat) (exponent : Int)
  deriving DecidableEq

namespace Double

def twoTo (n : Nat) : Nat := Nat.pow 2 n
def tenTo (n : Nat) : Nat := Nat.pow 10 n

def leastExponent : Int := -1074

def greatestExponent : Int := 971

def divNearest (n d : Nat) : Nat :=
  let q := n / d
  let r := n % d
  if 2 * r > d || (2 * r = d && q % 2 = 1) then q + 1 else q

def scaled (n d : Nat) (e : Int) : Nat × Nat :=
  if e < 0 then (n * twoTo (-e).toNat, d) else (n, d * twoTo e.toNat)

def ofRatio (negative : Bool) (n d : Nat) : Double :=
  if n = 0 then .finite negative 0 leastExponent
  else
    let guess := max leastExponent ((n.log2 : Int) - d.log2 - 53)
    let (a, b) := scaled n d guess
    let e := if a / b ≥ twoTo 53 then guess + 1 else guess
    let (a, b) := scaled n d e
    let m := divNearest a b
    let (m, e) := if m = twoTo 53 then (twoTo 52, e + 1) else (m, e)
    if e > greatestExponent then .infinite negative else .finite negative m e

/-- The number nearest to `digits * 10 ^ power`. Powers far beyond the range are not computed. -/
def ofDecimal (negative : Bool) (digits : Nat) (power : Int) : Double :=
  if digits = 0 then ofRatio negative 0 1
  else
    let size := (Nat.toDigits 10 digits).length + power
    if size > 400 then .infinite negative
    else if size < -400 then ofRatio negative 0 1
    else if power < 0 then ofRatio negative digits (tenTo (-power).toNat)
    else ofRatio negative (digits * tenTo power.toNat) 1

/-! ### Reading -/

def natOfDigits (ds : List Char) : Nat := ds.foldl (fun n c => 10 * n + (c.toNat - 48)) 0

def splitSign : List Char → Bool × List Char
  | '-' :: rest => (true, rest)
  | '+' :: rest => (false, rest)
  | cs => (false, cs)

def exponent? : List Char → Option Int
  | [] => some 0
  | c :: rest =>
    if c = 'e' || c = 'E' then
      let (negative, digits) := splitSign rest
      if digits.isEmpty || !digits.all Char.isDigit then none
      else some (if negative then -(natOfDigits digits : Int) else natOfDigits digits)
    else none

def ofChars? (cs : List Char) : Option Double :=
  let (negative, body) := splitSign cs
  let lower := body.map Char.toLower
  if lower = "nan".toList then some .nan
  else if lower = "inf".toList || lower = "infinity".toList then some (.infinite negative)
  else
    let whole := body.takeWhile Char.isDigit
    let rest := body.drop whole.length
    let (part, rest) :=
      match rest with
      | '.' :: rest =>
        let part := rest.takeWhile Char.isDigit
        (part, rest.drop part.length)
      | rest => ([], rest)
    if whole.isEmpty && part.isEmpty then none
    else
      (exponent? rest).map fun power =>
        ofDecimal negative (natOfDigits (whole ++ part)) (power - part.length)

/-! ### Writing -/

def decimalExponent (n d : Nat) : Int :=
  if d ≤ n then ((Nat.toDigits 10 (n / d)).length : Int) - 1
  else
    match (List.range 400).find? fun t => d ≤ n * tenTo (t + 1) with
    | some t => -((t : Int) + 1)
    | none => -400

/-- The grid of `count` significant digits at a number: its neighbours there that lie in the open
or closed interval of what reads back, nearest first. The number is `4 * m` and the interval goes
from `low` to `high`, all in units of `2 ^ e`. -/
def candidates (m low high : Nat) (e : Int) (closed : Bool) (top : Int) (count : Nat) :
    List (Nat × Int) :=
  let power := top - (count - 1 : Nat)
  let up := fun (x : Nat) => if e < 0 then x else x * twoTo e.toNat
  let unit := if e < 0 then twoTo (-e).toNat else 1
  -- everything below is compared in units of `10 ^ power / unit` or its inverse
  let grid := if power < 0 then 1 else tenTo power.toNat
  let scale := if power < 0 then tenTo (-power).toNat else 1
  let step := grid * unit
  let value := up (4 * m) * scale
  let floor := value / step
  let inside (x : Nat) : Bool :=
    let x := x * step
    if closed then up low * scale ≤ x && x ≤ up high * scale
    else up low * scale < x && x < up high * scale
  let below := value - floor * step
  let above := (floor + 1) * step - value
  let order := if below < above then [floor, floor + 1] else [floor + 1, floor]
  (order.filter inside).map fun x => (x, power)

/-- The fewest digits that read back, and the power of ten of the last one. Of two such the
nearer, and of two as near the greater. -/
def shortest (m : Nat) (e : Int) : Nat × Int :=
  let low := if m = twoTo 52 && e > leastExponent then 4 * m - 1 else 4 * m - 2
  let e' := e - 2
  let (n, d) := if e < 0 then (m, twoTo (-e).toNat) else (m * twoTo e.toNat, 1)
  let top := decimalExponent n d
  match (List.range 17).findSome? fun k =>
    (candidates m low (4 * m + 2) e' (m % 2 = 0) top (k + 1)).head? with
  | some (digits, power) =>
    -- one digit too many only if the number rounds up to a power of ten
    if digits = 10 then (1, power + 1) else (digits, power)
  | none => (0, 0)

def positional (digits : Nat) (power : Int) : List Char :=
  let ds := Nat.toDigits 10 digits
  if power ≥ 0 then ds ++ List.replicate power.toNat '0'
  else
    let places := (-power).toNat
    if places < ds.length then
      ds.take (ds.length - places) ++ '.' :: ds.drop (ds.length - places)
    else '0' :: '.' :: List.replicate (places - ds.length) '0' ++ ds

def toChars : Double → List Char
  | nan => "NaN".toList
  | infinite negative => (if negative then ['-'] else []) ++ "inf".toList
  | finite negative m e =>
    let sign := if negative then ['-'] else []
    if m = 0 then sign ++ ['0']
    else
      let (digits, power) := shortest m e
      sign ++ positional digits power

end Double

end ScriptTypes.Decimal
