import ScriptTypes.Proofs.Text.Occurrence
import ScriptTypes.Text.Bytes

/-!
Words and bytes. No character goes on with a byte that a word can begin with, so that the bytes of a
word stand among those of a text only where the word stands in the text. The search for a word whose
first byte does not come again in it finds each place where its bytes stand.
-/

namespace ScriptTypes.Text

open String.Pos.Raw (IsValid isValid_iff_exists_append isValid_iff_isUTF8FirstByte)

/-! ### The bytes of a text -/

theorem bytes_append (s t : String) : bytes (s ++ t) = bytes s ++ bytes t := by
  rw [bytes, String.toByteArray_append, ByteArray.data_append, Array.toList_append]
  rfl

theorem length_bytes (text : String) : (bytes text).length = text.utf8ByteSize := by
  rw [bytes, Array.length_toList]
  rfl

theorem bytes_inj {s t : String} : bytes s = bytes t ↔ s = t := by
  rw [bytes, bytes, Array.toList_inj, ← ByteArray.ext_iff, String.toByteArray_inj]

theorem getElem_bytes {text : String} {n : Nat} (inside : n < text.utf8ByteSize) :
    (bytes text)[n]? = some (text.getUTF8Byte ⟨n⟩ inside) := by
  rw [bytes, Array.getElem?_toList]
  exact Array.getElem?_eq_getElem inside

theorem begins_of_bytes {s t : String} {back : List UInt8} (begins : bytes t = bytes s ++ back) :
    ∃ v, t = s ++ v := by
  have encoded : s.toList.utf8Encode ++ ⟨back.toArray⟩ = t.toList.utf8Encode := by
    rw [String.utf8Encode_toList, String.utf8Encode_toList]
    apply ByteArray.ext
    apply Array.toList_inj.1
    rw [ByteArray.data_append, Array.toList_append]
    exact begins.symm
  obtain ⟨v, split⟩ := List.isPrefix_of_utf8Encode_append_eq_utf8Encode _ encoded
  refine ⟨.ofList v, String.toList_inj.1 ?_⟩
  rw [String.toList_append, String.toList_ofList, split]

/-- A character begins where a byte stands with which a word begins. -/
theorem isValid_of_bytes {text word : String} {front back : List UInt8} (filled : word ≠ "")
    (split : bytes text = front ++ bytes word ++ back) : IsValid text ⟨front.length⟩ := by
  have width : 0 < word.utf8ByteSize :=
    Nat.pos_of_ne_zero (mt String.utf8ByteSize_eq_zero_iff.1 filled)
  have inside : front.length < text.utf8ByteSize := by
    rw [← length_bytes, split, List.length_append, List.length_append, length_bytes word]
    omega
  have first : text.getUTF8Byte ⟨front.length⟩ inside = word.getUTF8Byte 0 width := by
    apply Option.some.inj
    calc
      some (text.getUTF8Byte ⟨front.length⟩ inside) = (bytes text)[front.length]? :=
        (getElem_bytes inside).symm
      _ = (bytes word ++ back)[0]? := by
        rw [split, List.append_assoc, List.getElem?_append_right (Nat.le_refl _), Nat.sub_self]
      _ = (bytes word)[0]? := List.getElem?_append_left (by rwa [length_bytes])
      _ = some (word.getUTF8Byte 0 width) := getElem_bytes width
  apply isValid_iff_isUTF8FirstByte.2
  right
  exact ⟨inside, by rw [first]; exact String.isUTF8FirstByte_getUTF8Byte_zero⟩

/-- Where the bytes of a word stand, the word stands. -/
theorem split_of_bytes {text word : String} {front back : List UInt8} (filled : word ≠ "")
    (split : bytes text = front ++ bytes word ++ back) :
    ∃ u v, text = u ++ word ++ v ∧ bytes u = front := by
  have boundary : IsValid text ⟨front.length⟩ := isValid_of_bytes filled split
  obtain ⟨u, rest, rfl, place⟩ := isValid_iff_exists_append.1 boundary
  have level : (bytes u).length = front.length := by
    rw [length_bytes]
    exact (congrArg String.Pos.Raw.byteIdx place).symm
  rw [bytes_append, List.append_assoc] at split
  obtain ⟨same, behind⟩ := List.append_inj split level
  obtain ⟨v, rfl⟩ := begins_of_bytes behind
  exact ⟨u, v, String.append_assoc.symm, same⟩

/-- A text ends in the byte of a character that has only one exactly if it ends in the character. -/
theorem getLast_bytes {c : Char} {b : UInt8} (single : bytes (.singleton c) = [b])
    (text : String) : (bytes text).getLast? = some b ↔ text.toList.getLast? = some c := by
  rw [List.getLast?_eq_some_iff, List.getLast?_eq_some_iff]
  constructor
  · intro ends
    obtain ⟨front, split⟩ := ends
    have stands : bytes text = front ++ bytes (.singleton c) ++ [] := by
      rw [split, single, List.append_nil]
    obtain ⟨w, v, rfl, same⟩ := split_of_bytes (by simp) stands
    rw [bytes_append, bytes_append, same] at stands
    have nothing : v = "" := bytes_inj.1 (List.append_cancel_left stands)
    exact ⟨w.toList, by simp [nothing]⟩
  · intro ends
    obtain ⟨w, split⟩ := ends
    have whole : text = .ofList w ++ .singleton c := String.toList_inj.1 (by simp [split])
    exact ⟨bytes (.ofList w), by rw [whole, bytes_append, single]⟩

/-! ### Cutting -/

theorem isValid_append (s t : String) : IsValid (s ++ t) ⟨s.utf8ByteSize⟩ :=
  isValid_iff_exists_append.2 ⟨s, t, rfl, rfl⟩

theorem textBefore_append (s t : String) : textBefore? (s ++ t) s.utf8ByteSize = some s := by
  rw [textBefore?, dif_pos (isValid_append s t)]
  exact congrArg some String.Pos.splits_append_rawEndPos.copy_sliceTo_eq

theorem take_bytes_append (s t : String) : (bytes (s ++ t)).take s.utf8ByteSize = bytes s := by
  rw [bytes_append, ← length_bytes, List.take_left]

/-! ### The search -/

section Search

variable {head : UInt8} {tail : List UInt8}

theorem mem_offsetsFrom (once : head ∉ tail) {text : List UInt8} {offset n : Nat} :
    n ∈ offsetsFrom (head :: tail) offset text ↔
      ∃ front back, text = front ++ head :: tail ++ back ∧ n = offset + front.length := by
  fun_induction offsetsFrom (head :: tail) offset text with
  | case1 offset =>
      constructor
      · intro found
        cases found
      · intro stands
        obtain ⟨front, back, nothing, -⟩ := stands
        simp at nothing
  | case2 offset b rest found ih =>
      obtain ⟨behind, begins⟩ := List.isPrefixOf_iff_prefix.1 found
      obtain ⟨rfl, (rfl : tail ++ behind = rest)⟩ := List.cons.inj begins
      have next : (tail ++ behind).drop ((head :: tail).length - 1) = behind := List.drop_left
      rw [next] at ih ⊢
      rw [List.mem_cons, ih]
      constructor
      · intro member
        rcases member with here | ⟨front, back, rfl, there⟩
        · exact ⟨[], behind, rfl, here⟩
        · refine ⟨head :: tail ++ front, back, by simp, ?_⟩
          rw [there, List.length_append, Nat.add_assoc]
      · intro stands
        obtain ⟨front, back, same, there⟩ := stands
        by_cases start : front = []
        · left
          rw [there, start]
          rfl
        · right
          -- the search goes on behind the word, and passes over no place where it stands again
          obtain ⟨w, rfl⟩ := occurrences_apart once same start
          refine ⟨w, back, by simpa using same, ?_⟩
          rw [there, List.length_append, Nat.add_assoc]
  | case3 offset b rest missed ih =>
      rw [ih]
      constructor
      · intro later
        obtain ⟨front, back, rfl, there⟩ := later
        refine ⟨b :: front, back, rfl, ?_⟩
        rw [there, List.length_cons]
        omega
      · intro stands
        obtain ⟨front, back, same, there⟩ := stands
        cases front with
        | nil => exact absurd (List.isPrefixOf_iff_prefix.2 ⟨back, same.symm⟩) missed
        | cons c front =>
            refine ⟨front, back, (List.cons.inj same).2, ?_⟩
            rw [there, List.length_cons]
            omega

theorem pairwise_offsetsFrom (once : head ∉ tail) (offset : Nat) (text : List UInt8) :
    (offsetsFrom (head :: tail) offset text).Pairwise
      fun m n => m + (head :: tail).length ≤ n := by
  fun_induction offsetsFrom (head :: tail) offset text with
  | case1 => exact .nil
  | case2 offset b rest found ih =>
      apply List.Pairwise.cons _ ih
      intro n member
      obtain ⟨front, -, -, there⟩ := (mem_offsetsFrom once).1 member
      omega
  | case3 offset b rest missed ih => exact ih

end Search

end ScriptTypes.Text
