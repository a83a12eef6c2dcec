import Mathlib.Data.List.Nodup
import Mathlib.Data.Prod.Lex
import Mathlib.Data.String.Basic
import ScriptTypes.Registry

namespace ScriptTypes

namespace ValueClass

def all : List ValueClass :=
  [ofType (.int .u8), ofType (.int .i32), ofType (.int .i64), ofType (.int .u64),
    ofType (.int .i128), ofType .f64, ofType .bool, ofType .char, ofType .text, textSlice,
    textReference, boxedText, unit, byteVector, byteSlice, optionalInteger, classTag]

theorem mem_all (c : ValueClass) : c ∈ all := by
  rcases c with ((t | _ | _ | _ | _) | _)
  · cases t <;> decide
  all_goals decide

theorem name_injective : Function.Injective name := by
  have apart : (all.map name).Nodup := by decide +kernel
  intro c d same
  exact List.inj_on_of_nodup_map apart (mem_all c) (mem_all d) same

end ValueClass

namespace Identity

def listing (i : Identity) : Listing := ⟨i.baseName, i.source, i.valueClass.name⟩

theorem listing_injective : Function.Injective listing := by
  intro i j same
  obtain ⟨names, sources, classes⟩ := Listing.mk.inj same
  obtain ⟨valueClass, baseName, source⟩ := i
  cases names
  cases sources
  cases ValueClass.name_injective classes
  rfl

end Identity

namespace Listing

def key (a : Listing) : String ×ₗ String ×ₗ String := toLex (a.baseName, toLex (a.source, a.className))

theorem le_iff_key {a b : Listing} : le a b = true ↔ a.key ≤ b.key := by
  rw [key, key, Prod.Lex.toLex_le_toLex, Prod.Lex.toLex_le_toLex, le]
  by_cases names : a.baseName = b.baseName
  · by_cases sources : a.source = b.source
    · simp [names, sources]
    · simp [names, sources]
  · simp [names]

theorem le_trans' (a b c : Listing) (first : le a b = true) (last : le b c = true) : le a c = true :=
  le_iff_key.2 ((le_iff_key.1 first).trans (le_iff_key.1 last))

theorem le_total' (a b : Listing) : (le a b || le b a) = true := by
  rw [Bool.or_eq_true, le_iff_key, le_iff_key]
  exact le_total a.key b.key

end Listing

end ScriptTypes
