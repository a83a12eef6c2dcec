import ScriptTypes.Decimal.Double

namespace ScriptTypes

open ScriptTypes.Decimal (Double)

inductive IntType where
  | u8
  | i32
  | i64
  | u64
  | i128
  deriving DecidableEq

namespace IntType

def signed : IntType → Bool
  | u8 => false
  | i32 => true
  | i64 => true
  | u64 => false
  | i128 => true

def least : IntType → Int
  | u8 => 0
  | i32 => -2147483648
  | i64 => -9223372036854775808
  | u64 => 0
  | i128 => -170141183460469231731687303715884105728

def greatest : IntType → Int
  | u8 => 255
  | i32 => 2147483647
  | i64 => 9223372036854775807
  | u64 => 18446744073709551615
  | i128 => 170141183460469231731687303715884105727

def Holds (t : IntType) (n : Int) : Prop := t.least ≤ n ∧ n ≤ t.greatest

instance (t : IntType) (n : Int) : Decidable (t.Holds n) :=
  inferInstanceAs (Decidable (_ ∧ _))

end IntType

inductive ValueType where
  | int (t : IntType)
  | f64
  | bool
  | char
  | text
  deriving DecidableEq

def ValueType.Carrier : ValueType → Type
  | int t => { n : Int // t.Holds n }
  | f64 => Double
  | bool => Bool
  | char => Char
  | text => String

/-! ### Integers -/

def natural? (cs : List Char) : Option Nat :=
  if cs.isEmpty || !cs.all Char.isDigit then none
  else some (cs.foldl (fun n c => 10 * n + (c.toNat - 48)) 0)

def integer? (signed : Bool) : List Char → Option Int
  | '+' :: digits => (natural? digits).map Int.ofNat
  | '-' :: digits => if signed then (natural? digits).map fun n => -Int.ofNat n else none
  | digits => (natural? digits).map Int.ofNat

def IntType.ofChars? (t : IntType) (cs : List Char) : Option { n : Int // t.Holds n } :=
  (integer? t.signed cs).bind fun n => if h : t.Holds n then some ⟨n, h⟩ else none

def intChars (n : Int) : List Char :=
  if n < 0 then '-' :: Nat.toDigits 10 n.natAbs else Nat.toDigits 10 n.natAbs

namespace ValueType

def ofText? : (t : ValueType) → String → Option t.Carrier
  | int t, s => t.ofChars? s.toList
  | f64, s => Double.ofChars? s.toList
  | bool, s => if s = "true" then some true else if s = "false" then some false else none
  | char, s =>
    match s.toList with
    | [c] => some c
    | _ => none
  | text, s => some s

def toText : (t : ValueType) → t.Carrier → String
  | int _, n => .ofList (intChars n.val)
  | f64, x => .ofList (Double.toChars x)
  | bool, (b : Bool) => if b then "true" else "false"
  | char, c => Char.toString c
  | text, s => s

end ValueType

end ScriptTypes
