import ScriptTypes.Proofs.Descriptor.Identity
import ScriptTypes.Proofs.Value.Numerals

namespace ScriptTypes

open ScriptTypes.Numeral

namespace IntType

variable {t : IntType} {n : Int}

theorem Holds.signed_of_neg (holds : t.Holds n) (negative : n < 0) : t.signed = true := by
  cases t with
  | u8 => exact absurd holds.1 (Int.not_le.2 negative)
  | u64 => exact absurd holds.1 (Int.not_le.2 negative)
  | i32 => rfl
  | i64 => rfl
  | i128 => rfl

theorem ofChars_eq_some {cs : List Char} {v : { n : Int // t.Holds n }} :
    t.ofChars? cs = some v ↔ Spells t.signed cs v.val := by
  rw [ofChars?, ← integer_eq_some, Option.bind_eq_some_iff]
  constructor
  · rintro ⟨n, read, kept⟩
    split at kept
    · cases kept
      exact read
    · cases kept
  · intro read
    exact ⟨v.val, read, dif_pos v.property⟩

theorem ofChars_eq_none {cs : List Char} :
    t.ofChars? cs = none ↔ ∀ n, Spells t.signed cs n → ¬ t.Holds n := by
  rw [Option.eq_none_iff_forall_ne_some]
  constructor
  · intro missed n spelled holds
    exact missed ⟨n, holds⟩ (ofChars_eq_some.2 spelled)
  · intro outside v read
    exact outside v.val (ofChars_eq_some.1 read) v.property

theorem ofChars_of_outside {cs : List Char} (spelled : Spells t.signed cs n)
    (outside : ¬ t.Holds n) : t.ofChars? cs = none := by
  apply ofChars_eq_none.2
  intro m again holds
  rw [← spelled.unique again] at holds
  exact outside holds

end IntType

/-- The reader of an integer type takes exactly the numerals of the type, which have a minus only if
the type is signed, that spell a number in its range, and finds that number. It rejects all other
texts, such as a lone sign or a text with a character that is no sign and no ASCII digit, and never
crashes. -/
theorem integer_literals_exact (t : IntType) (text : String) :
    ∃ result, LiteralReader.ofType (.int t) text = .returned result ∧
      (∀ n, (∃ holds : t.Holds n, result = some ⟨n, holds⟩) ↔
        Spells t.signed text.toList n ∧ t.least ≤ n ∧ n ≤ t.greatest) ∧
      (result = none ↔ ∀ n, Spells t.signed text.toList n → n < t.least ∨ t.greatest < n) ∧
      (text = "+" ∨ text = "-" ∨ (∃ c ∈ text.toList, ¬ InNumeral c) → result = none) := by
  have rejected : t.ofChars? text.toList = none ↔
      ∀ n, Spells t.signed text.toList n → n < t.least ∨ t.greatest < n := by
    rw [IntType.ofChars_eq_none]
    simp only [IntType.Holds, not_and_or, Int.not_le]
  refine ⟨t.ofChars? text.toList, rfl, fun n => ⟨?_, ?_⟩, rejected, fun shapeless => ?_⟩
  · rintro ⟨holds, read⟩
    exact ⟨IntType.ofChars_eq_some.1 read, holds⟩
  · rintro ⟨spelled, holds⟩
    exact ⟨holds, IntType.ofChars_eq_some.2 spelled⟩
  · apply rejected.2
    intro n spelled
    obtain ⟨plain, not_plus, not_minus⟩ := spelled.shape
    rcases shapeless with rfl | rfl | ⟨c, member, foreign⟩
    · exact absurd rfl not_plus
    · exact absurd rfl not_minus
    · exact absurd (plain c member) foreign

/-- The least number of 64 bits has no positive counterpart, and a digit of another script is no
digit here. -/
theorem i64_edges_read :
    (∃ holds, LiteralReader.ofType (.int .i64) "-9223372036854775808" =
      .returned (some ⟨-9223372036854775808, holds⟩)) ∧
    LiteralReader.ofType (.int .i64) "+9223372036854775808" = .returned none ∧
    (∃ c ∈ "1\u0663".toList, ¬ InNumeral c) ∧
    LiteralReader.ofType (.int .i64) "1\u0663" = .returned none := by
  let digits : List Char := "9223372036854775808".toList
  have all_digits : Digits digits := ⟨by decide, by simp [digits]⟩
  have value : decimal digits = 9223372036854775808 := by
    rw [decimal_eq]
    rfl
  have foreign : ∃ c ∈ "1\u0663".toList, ¬ InNumeral c :=
    ⟨'\u0663', by decide, by unfold InNumeral; decide⟩
  refine ⟨?_, ?_, foreign, ?_⟩
  · have spelled : Spells true "-9223372036854775808".toList (-(decimal digits)) :=
      .minus rfl all_digits
    rw [value] at spelled
    obtain ⟨result, read, accepted, -⟩ := integer_literals_exact .i64 "-9223372036854775808"
    obtain ⟨holds, found⟩ := (accepted _).2 ⟨spelled, by decide, by decide⟩
    exact ⟨holds, by rw [read, found]; rfl⟩
  · have spelled : Spells true "+9223372036854775808".toList (decimal digits) := .plus all_digits
    rw [value] at spelled
    obtain ⟨result, read, -, rejected, -⟩ := integer_literals_exact .i64 "+9223372036854775808"
    rw [read, rejected.2]
    intro n again
    rw [← spelled.unique again]
    decide
  · obtain ⟨result, read, -, -, rejected⟩ := integer_literals_exact .i64 "1\u0663"
    rw [read, rejected (.inr (.inr foreign))]

/-! ### What is written is read -/

theorem ofText_toText {t : ValueType} (exact_type : t ≠ .f64) (v : t.Carrier) :
    t.ofText? (t.toText v) = some v := by
  cases t with
  | int t =>
      rw [ValueType.ofText?, ValueType.toText, String.toList_ofList]
      exact IntType.ofChars_eq_some.2 (spells_intChars v.property.signed_of_neg)
  | f64 => exact absurd rfl exact_type
  | bool => cases v <;> rfl
  | char =>
      have single : (Char.toString v).toList = [v] := String.toList_singleton v
      rw [ValueType.ofText?, ValueType.toText, single]
  | text => rfl

namespace Descriptor

variable {t : ValueType}

structure Plain (d : Descriptor t) : Prop where
  reader : d.reader = some (LiteralReader.ofType t)
  renderer : d.renderer = none

def Reads (d : Descriptor t) (text : String) (v : t.Carrier) : Prop :=
  ∃ reader, d.reader = some reader ∧ reader text = .returned (some v)

variable {d : Descriptor t}

theorem Plain.reads_iff (plain : d.Plain) {text : String} {v : t.Carrier} :
    d.Reads text v ↔ t.ofText? text = some v := by
  simp [Reads, plain.reader, LiteralReader.ofType]

theorem Plain.display_eq (plain : d.Plain) (v : t.Carrier) :
    d.display v = .returned (t.toText v) := by
  rw [display, plain.renderer]

theorem Plain.reads_int {t : IntType} {d : Descriptor (.int t)} (plain : d.Plain) {text : String}
    {v : (ValueType.int t).Carrier} : d.Reads text v ↔ Spells t.signed text.toList v.val :=
  plain.reads_iff.trans IntType.ofChars_eq_some

end Descriptor

/-- A descriptor that reads and shows values as their type does reads what it shows of a value as
that value. Integers it shows in canonical form: if a text is read as a value, the value is shown as
the text without a plus, without superfluous zeros and, if it is zero, without a minus. So two texts
are read as one value exactly if they have the same canonical form. -/
theorem shown_values_are_read :
    (∀ {t : ValueType} (d : Descriptor t), d.Plain → t ≠ .f64 →
      ∀ v, ∃ text, d.display v = .returned text ∧ d.Reads text v) ∧
    ∀ {t : IntType} (d : Descriptor (.int t)), d.Plain →
      ∀ text v, d.Reads text v →
        d.display v = .returned (.ofList (canonical text.toList)) ∧
        ∀ other w, d.Reads other w →
          (v = w ↔ canonical text.toList = canonical other.toList) := by
  refine ⟨fun {t} d plain exact_type v => ?_, fun {t} d plain text v read => ⟨?_, ?_⟩⟩
  · exact ⟨t.toText v, plain.display_eq v, plain.reads_iff.2 (ofText_toText exact_type v)⟩
  · rw [plain.display_eq, ValueType.toText, (plain.reads_int.1 read).intChars_eq]
  · intro other w again
    rw [← (plain.reads_int.1 read).eq_iff_canonical (plain.reads_int.1 again)]
    exact Subtype.ext_iff

/-- A literal with more zeros than it needs. -/
theorem item_shows_canonical_form :
    ∃ d : Descriptor (.int .i128),
      Descriptor.withReader .unit "item" " item" (LiteralReader.ofType (.int .i128)) = .ok d ∧
      ∃ v, d.Reads "-007" v ∧ d.display v = .returned "-7" ∧ d.Reads "-7" v := by
  let d : Descriptor (.int .i128) :=
    ⟨.unit, "item", itemMatcher, some (LiteralReader.ofType (.int .i128)), none⟩
  have built : Descriptor.withReader .unit "item" " item" (LiteralReader.ofType _) = .ok d :=
    Descriptor.ofParts_eq_ok.2 ⟨itemMatcher, compile_item, rfl⟩
  have plain : d.Plain := ⟨rfl, rfl⟩
  let v : (ValueType.int .i128).Carrier := ⟨-7, by decide⟩
  have digits : Digits ['0', '0', '7'] := ⟨by decide, by simp⟩
  have read : d.Reads "-007" v := plain.reads_int.2 (.minus rfl digits)
  have shown := (shown_values_are_read.2 d plain "-007" v read).1
  rw [show String.ofList (canonical "-007".toList) = "-7" by decide] at shown
  obtain ⟨text, own, back⟩ := shown_values_are_read.1 d plain (by decide) v
  rw [shown] at own
  cases own
  exact ⟨d, built, v, read, shown, back⟩

/-! ### Crashes taken for rejections -/

namespace LiteralReader

variable {text : String} {n : Int}

theorem byte_of_wide (spelled : Spells false text.toList n) (low : 256 ≤ n) (high : n ≤ 65535) :
    byte (.int .u8) text = .crashed "byte literal out of range" := by
  rw [byte, integer_eq_some.2 spelled]
  simp only
  rw [if_neg (by omega), if_pos (by omega)]

theorem byte_of_small (spelled : Spells false text.toList n) (high : n ≤ 255) :
    byte (.int .u8) text = ofType (.int .u8) text := by
  let v : (ValueType.int .u8).Carrier := ⟨n, spelled.nonneg, high⟩
  have read : IntType.u8.ofChars? text.toList = some v := IntType.ofChars_eq_some.2 spelled
  have again : ValueType.ofText? (.int .u8) (.ofList (intChars n)) = some v :=
    ofText_toText (by decide) v
  rw [byte, integer_eq_some.2 spelled, ofType, ValueType.ofText?, read]
  simp only
  rw [if_neg (by omega), if_neg (by omega), again]

/-- Only in the range in which it crashes the reader differs from that of the type. -/
theorem byte_eq_ofType (narrow : ∀ n, Spells false text.toList n → n ≤ 255 ∨ 65535 < n) :
    byte (.int .u8) text = ofType (.int .u8) text := by
  cases read : integer? false text.toList with
  | none =>
      have missed : IntType.u8.ofChars? text.toList = none := by
        rw [IntType.ofChars?, IntType.signed, read, Option.bind_none]
      rw [byte, read, ofType, ValueType.ofText?, missed]
      rfl
  | some n =>
      have spelled := integer_eq_some.1 read
      rcases narrow n spelled with small | beyond
      · exact byte_of_small spelled small
      · have outside : ¬ IntType.u8.Holds n := by
          intro holds
          have high : n ≤ 255 := holds.2
          omega
        have missed := IntType.ofChars_of_outside (t := .u8) spelled outside
        rw [byte, read, ofType, ValueType.ofText?, missed]
        simp only [if_pos beyond]
        rfl

end LiteralReader

/-- A reader of bytes that crashes on greater numbers of 16 bits is, with crashes taken for
rejections, the reader of the type of bytes. It crashes exactly on the numerals, with a plus or
without a sign, of the numbers of 16 bits that are no bytes. -/
theorem byte_reader_agrees (text : String) :
    LiteralReader.ofType (.int .u8) text =
        .returned (LiteralReader.byte (.int .u8) text).orReject ∧
      ((∃ message, LiteralReader.byte (.int .u8) text = .crashed message) ↔
        ∃ n, Spells false text.toList n ∧ 256 ≤ n ∧ n ≤ 65535) := by
  by_cases wide : ∃ n, Spells false text.toList n ∧ 256 ≤ n ∧ n ≤ 65535
  · obtain ⟨n, spelled, low, high⟩ := wide
    have crashed := LiteralReader.byte_of_wide spelled low high
    have outside : ¬ IntType.u8.Holds n := by
      intro holds
      have small : n ≤ 255 := holds.2
      omega
    have missed := IntType.ofChars_of_outside (t := .u8) spelled outside
    refine ⟨?_, fun _ => ⟨n, spelled, low, high⟩, fun _ => ⟨_, crashed⟩⟩
    rw [crashed, LiteralReader.ofType, ValueType.ofText?, missed]
    rfl
  · have same : LiteralReader.byte (.int .u8) text = LiteralReader.ofType (.int .u8) text := by
      apply LiteralReader.byte_eq_ofType
      intro n spelled
      by_contra between
      exact wide ⟨n, spelled, by omega, by omega⟩
    refine ⟨?_, ?_, fun crashes => absurd crashes wide⟩
    · rw [same]
      rfl
    · rintro ⟨message, crashed⟩
      rw [same] at crashed
      cases crashed

end ScriptTypes
