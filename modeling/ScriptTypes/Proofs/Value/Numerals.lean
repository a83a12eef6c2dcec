import Mathlib.Data.List.Induction
import Mathlib.Data.Nat.Digits.Defs
import ScriptTypes.Value

namespace ScriptTypes

namespace Numeral

structure Digits (cs : List Char) : Prop where
  filled : cs ≠ []
  ascii : ∀ c ∈ cs, '0' ≤ c ∧ c ≤ '9'

def digit (c : Char) : Nat := c.toNat - '0'.toNat

def decimal (cs : List Char) : Nat := Nat.ofDigits 10 (cs.reverse.map digit)

/-- A numeral and the number that it spells. There may be a plus before the digits, or a minus if
the numerals are signed ones. -/
inductive Spells (signed : Bool) : List Char → Int → Prop
  | bare {ds : List Char} (digits : Digits ds) : Spells signed ds (decimal ds)
  | plus {ds : List Char} (digits : Digits ds) : Spells signed ('+' :: ds) (decimal ds)
  | minus {ds : List Char} (allowed : signed = true) (digits : Digits ds) :
      Spells signed ('-' :: ds) (-(decimal ds))

def stripZeros (ds : List Char) : List Char :=
  match ds.dropWhile (· = '0') with
  | [] => ['0']
  | rest => rest

/-- A numeral without a plus and without superfluous zeros. Zero has no minus either. -/
def canonical : List Char → List Char
  | '+' :: ds => stripZeros ds
  | '-' :: ds => if stripZeros ds = ['0'] then ['0'] else '-' :: stripZeros ds
  | ds => stripZeros ds

/-! ### Digits -/

theorem isDigit_iff {c : Char} : c.isDigit = true ↔ '0' ≤ c ∧ c ≤ '9' := by
  rw [Char.isDigit_iff_toNat, Char.le_def, Char.le_def, UInt32.le_iff_toNat_le,
    UInt32.le_iff_toNat_le]
  rfl

theorem digitChar_digit {c : Char} (ascii : '0' ≤ c ∧ c ≤ '9') :
    digit c < 10 ∧ Nat.digitChar (digit c) = c := by
  obtain ⟨low, high⟩ := Char.isDigit_iff_toNat.1 (isDigit_iff.2 ascii)
  have zero : '0'.toNat = 48 := rfl
  have nine : '9'.toNat = 57 := rfl
  have small : digit c < 10 := by
    unfold digit
    omega
  have code : (Nat.digitChar (digit c)).toNat = c.toNat := by
    rw [Nat.toNat_digitChar_of_lt_ten small]
    unfold digit
    omega
  exact ⟨small, Char.toNat_inj.1 code⟩

theorem toDigits_digit {c : Char} (ascii : '0' ≤ c ∧ c ≤ '9') :
    Nat.toDigits 10 (digit c) = [c] := by
  obtain ⟨small, same⟩ := digitChar_digit ascii
  rw [Nat.toDigits_of_lt_base small, same]

theorem decimal_eq (cs : List Char) : decimal cs = Nat.ofDigitChars 10 cs 0 := by
  induction cs using List.reverseRecOn with
  | nil => rfl
  | append_singleton cs c ih =>
      calc
        decimal (cs ++ [c]) = 10 * decimal cs + digit c := by
          simp [decimal, Nat.ofDigits_cons, Nat.add_comm]
        _ = 10 * Nat.ofDigitChars 10 cs 0 + digit c := by rw [ih]
        _ = Nat.ofDigitChars 10 (cs ++ [c]) 0 := by
          rw [Nat.ofDigitChars_append, Nat.ofDigitChars_cons, Nat.ofDigitChars_nil]
          rfl

theorem digits_toDigits (n : Nat) : Digits (Nat.toDigits 10 n) where
  filled := Nat.toDigits_ne_nil
  ascii := fun _ member =>
    isDigit_iff.1 (Nat.isDigit_of_mem_toDigits (by decide) (by decide) member)

theorem decimal_toDigits (n : Nat) : decimal (Nat.toDigits 10 n) = n := by
  rw [decimal_eq, Nat.ofDigitChars_ten_toDigits]

theorem toDigits_append {n : Nat} (positive : 0 < n) {ds : List Char}
    (ascii : ∀ c ∈ ds, '0' ≤ c ∧ c ≤ '9') :
    Nat.toDigits 10 n ++ ds = Nat.toDigits 10 (Nat.ofDigitChars 10 ds n) := by
  induction ds generalizing n with
  | nil => rw [Nat.ofDigitChars_nil, List.append_nil]
  | cons c rest ih =>
      obtain ⟨first, later⟩ := List.forall_mem_cons.1 ascii
      have small := (digitChar_digit first).1
      calc
        Nat.toDigits 10 n ++ c :: rest =
            (Nat.toDigits 10 n ++ Nat.toDigits 10 (digit c)) ++ rest := by
          rw [toDigits_digit first, List.append_assoc, List.singleton_append]
        _ = Nat.toDigits 10 (10 * n + digit c) ++ rest := by
          rw [Nat.toDigits_append_toDigits (by decide) positive small]
        _ = Nat.toDigits 10 (Nat.ofDigitChars 10 rest (10 * n + digit c)) := ih (by omega) later
        _ = Nat.toDigits 10 (Nat.ofDigitChars 10 (c :: rest) n) := by
          rw [Nat.ofDigitChars_cons]
          rfl

theorem stripZeros_zero (ds : List Char) : stripZeros ('0' :: ds) = stripZeros ds := by
  simp [stripZeros]

theorem stripZeros_cons {c : Char} (nonzero : c ≠ '0') (ds : List Char) :
    stripZeros (c :: ds) = c :: ds := by
  simp [stripZeros, nonzero]

/-- Without superfluous zeros digits are as their value is written. -/
theorem toDigits_decimal {ds : List Char} (ascii : ∀ c ∈ ds, '0' ≤ c ∧ c ≤ '9') :
    Nat.toDigits 10 (decimal ds) = stripZeros ds := by
  rw [decimal_eq]
  induction ds with
  | nil => rfl
  | cons c rest ih =>
      obtain ⟨first, later⟩ := List.forall_mem_cons.1 ascii
      have value : Nat.ofDigitChars 10 (c :: rest) 0 = Nat.ofDigitChars 10 rest (digit c) := by
        rw [Nat.ofDigitChars_cons, Nat.mul_zero, Nat.zero_add]
        rfl
      by_cases zero : c = '0'
      · subst zero
        rw [value, stripZeros_zero]
        exact ih later
      · have positive : 0 < digit c := by
          apply Nat.pos_of_ne_zero
          intro nothing
          have same := (digitChar_digit first).2
          rw [nothing] at same
          exact zero same.symm
        calc
          Nat.toDigits 10 (Nat.ofDigitChars 10 (c :: rest) 0) =
              Nat.toDigits 10 (digit c) ++ rest := by
            rw [value, toDigits_append positive later]
          _ = c :: rest := by rw [toDigits_digit first, List.singleton_append]
          _ = stripZeros (c :: rest) := (stripZeros_cons zero rest).symm

/-! ### Reading -/

variable {signed : Bool} {cs ds : List Char} {n : Int}

theorem natural_eq_some {m : Nat} : natural? cs = some m ↔ Digits cs ∧ decimal cs = m := by
  rw [decimal_eq]
  constructor
  · intro read
    unfold natural? at read
    split at read
    · cases read
    · rename_i shaped
      obtain ⟨filled, ascii⟩ : cs ≠ [] ∧ ∀ c ∈ cs, c.isDigit = true := by simpa using shaped
      exact ⟨⟨filled, fun c member => isDigit_iff.1 (ascii c member)⟩, Option.some.inj read⟩
  · rintro ⟨digits, rfl⟩
    have ascii : cs.all Char.isDigit = true :=
      List.all_eq_true.2 fun c member => isDigit_iff.2 (digits.ascii c member)
    unfold natural?
    rw [if_neg (by simp [digits.filled, ascii])]
    rfl

theorem map_natural_eq_some {f : Nat → Int} :
    (natural? ds).map f = some n ↔ Digits ds ∧ f (decimal ds) = n := by
  simp only [Option.map_eq_some_iff, natural_eq_some]
  constructor
  · rintro ⟨_, ⟨digits, rfl⟩, rfl⟩
    exact ⟨digits, rfl⟩
  · rintro ⟨digits, rfl⟩
    exact ⟨decimal ds, ⟨digits, rfl⟩, rfl⟩

theorem Digits.head (digits : Digits cs) {c : Char} (first : cs.head? = some c) :
    c ≠ '+' ∧ c ≠ '-' := by
  have ascii := digits.ascii c (List.mem_of_head? first)
  constructor
  · rintro rfl
    exact absurd ascii (by decide)
  · rintro rfl
    exact absurd ascii (by decide)

theorem integer_of_digits (signed : Bool) (digits : Digits ds) :
    integer? signed ds = (natural? ds).map Int.ofNat := by
  unfold integer?
  split
  · exact absurd rfl (digits.head rfl).1
  · exact absurd rfl (digits.head rfl).2
  · rfl

theorem integer_eq_some : integer? signed cs = some n ↔ Spells signed cs n := by
  constructor
  · intro read
    unfold integer? at read
    split at read
    · obtain ⟨digits, rfl⟩ := map_natural_eq_some.1 read
      exact .plus digits
    · obtain ⟨allowed, read⟩ := Option.ite_none_right_eq_some.1 read
      obtain ⟨digits, rfl⟩ := map_natural_eq_some.1 read
      exact .minus allowed digits
    · obtain ⟨digits, rfl⟩ := map_natural_eq_some.1 read
      exact .bare digits
  · intro spelled
    cases spelled with
    | bare digits =>
        rw [integer_of_digits signed digits]
        exact map_natural_eq_some.2 ⟨digits, rfl⟩
    | plus digits => exact map_natural_eq_some.2 ⟨digits, rfl⟩
    | minus allowed digits =>
        rw [integer?, if_pos allowed]
        exact map_natural_eq_some.2 ⟨digits, rfl⟩

theorem Spells.unique {m : Int} (spelled : Spells signed cs n) (again : Spells signed cs m) :
    n = m := by
  have read := integer_eq_some.2 spelled
  rw [integer_eq_some.2 again] at read
  exact (Option.some.inj read).symm

theorem Spells.nonneg (spelled : Spells false cs n) : 0 ≤ n := by
  cases spelled with
  | bare digits => exact Int.natCast_nonneg _
  | plus digits => exact Int.natCast_nonneg _
  | minus allowed digits => cases allowed

def InNumeral (c : Char) : Prop := c = '+' ∨ c = '-' ∨ '0' ≤ c ∧ c ≤ '9'

theorem Spells.shape (spelled : Spells signed cs n) :
    (∀ c ∈ cs, InNumeral c) ∧ cs ≠ ['+'] ∧ cs ≠ ['-'] := by
  have inside {ds : List Char} (digits : Digits ds) : ∀ c ∈ ds, InNumeral c := by
    intro c member
    exact .inr (.inr (digits.ascii c member))
  cases spelled with
  | bare digits =>
      refine ⟨inside digits, ?_, ?_⟩
      · rintro rfl
        exact (digits.head rfl).1 rfl
      · rintro rfl
        exact (digits.head rfl).2 rfl
  | plus digits =>
      refine ⟨List.forall_mem_cons.2 ⟨.inl rfl, inside digits⟩, ?_, ?_⟩
      · simpa using digits.filled
      · simp
  | minus allowed digits =>
      refine ⟨List.forall_mem_cons.2 ⟨.inr (.inl rfl), inside digits⟩, ?_, ?_⟩
      · simp
      · simpa using digits.filled

/-! ### Writing -/

theorem spells_intChars (allowed : n < 0 → signed = true) : Spells signed (intChars n) n := by
  unfold intChars
  split
  · rename_i negative
    have written : Spells signed _ _ := .minus (allowed negative) (digits_toDigits n.natAbs)
    rw [decimal_toDigits] at written
    rwa [show -(n.natAbs : Int) = n by omega] at written
  · rename_i natural
    have written : Spells signed _ _ := .bare (digits_toDigits n.natAbs)
    rw [decimal_toDigits] at written
    rwa [show (n.natAbs : Int) = n by omega] at written

theorem intChars_ofNat (m : Nat) : intChars m = Nat.toDigits 10 m := by
  rw [intChars, if_neg (by omega), Int.natAbs_natCast]

theorem canonical_of_digits (digits : Digits ds) : canonical ds = stripZeros ds := by
  unfold canonical
  split
  · exact absurd rfl (digits.head rfl).1
  · exact absurd rfl (digits.head rfl).2
  · rfl

theorem Spells.intChars_eq (spelled : Spells signed cs n) : intChars n = canonical cs := by
  cases spelled with
  | bare digits =>
      calc
        intChars (decimal cs) = Nat.toDigits 10 (decimal cs) := intChars_ofNat _
        _ = stripZeros cs := toDigits_decimal digits.ascii
        _ = canonical cs := (canonical_of_digits digits).symm
  | @plus ds digits =>
      calc
        intChars (decimal ds) = Nat.toDigits 10 (decimal ds) := intChars_ofNat _
        _ = stripZeros ds := toDigits_decimal digits.ascii
        _ = canonical ('+' :: ds) := rfl
  | @minus ds allowed digits =>
      have stripped := toDigits_decimal digits.ascii
      by_cases zero : decimal ds = 0
      · rw [zero, Nat.toDigits_zero] at stripped
        rw [zero, canonical, ← stripped, if_pos rfl]
        rfl
      · have more : stripZeros ds ≠ ['0'] := by
          intro same
          have read := decimal_toDigits (decimal ds)
          rw [stripped, same] at read
          exact zero read.symm
        calc
          intChars (-(decimal ds)) = '-' :: Nat.toDigits 10 (decimal ds) := by
            rw [intChars, if_pos (by omega), Int.natAbs_neg, Int.natAbs_natCast]
          _ = '-' :: stripZeros ds := by rw [stripped]
          _ = canonical ('-' :: ds) := (if_neg more).symm

/-- Two numerals spell the same number exactly if they have the same canonical form. -/
theorem Spells.eq_iff_canonical {other : List Char} {m : Int} (spelled : Spells signed cs n)
    (again : Spells signed other m) : n = m ↔ canonical cs = canonical other := by
  rw [← spelled.intChars_eq, ← again.intChars_eq]
  constructor
  · exact congrArg intChars
  · intro same
    have first : Spells true (intChars n) n := spells_intChars fun _ => rfl
    have last : Spells true (intChars m) m := spells_intChars fun _ => rfl
    exact first.unique (same ▸ last)

end Numeral

end ScriptTypes
