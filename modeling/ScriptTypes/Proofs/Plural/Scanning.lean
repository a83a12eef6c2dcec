import ScriptTypes.Proofs.Plural.Detection
import ScriptTypes.Proofs.Text.Bytes

namespace ScriptTypes.Plural

open ScriptTypes.Text

theorem hasGroup_toList (pattern : String) :
    hasGroup pattern.toList = true ↔
      ∃ u v, pattern = u ++ openerText ++ v ∧ u.toList.getLast? ≠ some '\\' := by
  rw [hasGroup_iff]
  constructor
  · intro opened
    obtain ⟨u, v, split, free⟩ := opened
    have whole : pattern = .ofList u ++ openerText ++ .ofList v := by
      apply String.toList_inj.1
      simp [split, openerText]
    exact ⟨.ofList u, .ofList v, whole, by rwa [String.toList_ofList]⟩
  · intro opened
    obtain ⟨u, v, rfl, free⟩ := opened
    exact ⟨u.toList, v.toList, by simp [openerText], free⟩

/-! ### The openers found -/

theorem bytes_openerText :
    bytes openerText = '('.toUInt8 :: opener.tail.map Char.toUInt8 := by decide

theorem opener_once : '('.toUInt8 ∉ opener.tail.map Char.toUInt8 := by decide

theorem bytes_backslash : bytes (.singleton '\\') = ['\\'.toUInt8] := by decide

theorem mem_openerOffsets {pattern : String} {n : Nat} :
    n ∈ openerOffsets pattern ↔
      ∃ u v, pattern = u ++ openerText ++ v ∧ u.utf8ByteSize = n := by
  rw [openerOffsets, bytes_openerText, mem_offsetsFrom opener_once, ← bytes_openerText]
  constructor
  · intro stands
    obtain ⟨front, back, split, place⟩ := stands
    obtain ⟨u, v, whole, same⟩ := split_of_bytes (by decide) split
    have width : u.utf8ByteSize = n := by
      calc
        u.utf8ByteSize = (bytes u).length := (length_bytes u).symm
        _ = front.length := by rw [same]
        _ = n := by rw [place, Nat.zero_add]
    exact ⟨u, v, whole, width⟩
  · intro stands
    obtain ⟨u, v, rfl, rfl⟩ := stands
    have split : bytes (u ++ openerText ++ v) = bytes u ++ bytes openerText ++ bytes v := by
      rw [bytes_append, bytes_append]
    exact ⟨bytes u, bytes v, split, by rw [Nat.zero_add, length_bytes]⟩

theorem openerOffsets_apart (pattern : String) :
    (openerOffsets pattern).Pairwise fun m n => m + openerText.utf8ByteSize ≤ n := by
  rw [openerOffsets, ← length_bytes, bytes_openerText]
  exact pairwise_offsetsFrom opener_once 0 (bytes pattern)

/-! ### The answer -/

theorem isFreeAt_opener (u v : String) :
    isFreeAt? (u ++ openerText ++ v) u.utf8ByteSize =
      some (decide (u.toList.getLast? ≠ some '\\')) := by
  rw [isFreeAt?, String.append_assoc, textBefore_append, Option.map_some,
    String.endsWith_char_eq_getLast?]
  apply congrArg some
  rw [Bool.eq_iff_iff]
  simp

theorem anyM_of_answers {α : Type} {f : α → Option Bool} {as : List α}
    (answers : ∀ a ∈ as, (f a).isSome) : as.anyM f = some (decide (∃ a ∈ as, f a = some true)) := by
  induction as with
  | nil => simp
  | cons a as ih =>
      obtain ⟨b, answer⟩ := Option.isSome_iff_exists.1 (answers a List.mem_cons_self)
      have later := ih fun x member => answers x (List.mem_cons_of_mem a member)
      rw [List.anyM_cons, answer]
      cases b with
      | false => simpa [answer] using later
      | true => simp [answer]

theorem scan_eq (pattern : String) : scan? pattern = some (hasGroup pattern.toList) := by
  have answers : ∀ n ∈ openerOffsets pattern, (isFreeAt? pattern n).isSome := by
    intro n found
    obtain ⟨u, v, rfl, rfl⟩ := mem_openerOffsets.1 found
    rw [isFreeAt_opener]
    rfl
  rw [scan?, anyM_of_answers answers]
  apply congrArg some
  rw [Bool.eq_iff_iff, decide_eq_true_iff, hasGroup_toList]
  constructor
  · intro answered
    obtain ⟨n, found, free⟩ := answered
    obtain ⟨u, v, rfl, rfl⟩ := mem_openerOffsets.1 found
    rw [isFreeAt_opener] at free
    exact ⟨u, v, rfl, of_decide_eq_true (Option.some.inj free)⟩
  · intro opened
    obtain ⟨u, v, rfl, free⟩ := opened
    have found : u.utf8ByteSize ∈ openerOffsets (u ++ openerText ++ v) :=
      mem_openerOffsets.2 ⟨u, v, rfl, rfl⟩
    exact ⟨u.utf8ByteSize, found, by rw [isFreeAt_opener, decide_eq_true free]⟩

/-- A plural group is found exactly if an opener stands in the pattern and no backslash before it.
The search on bytes never fails and says the same. It finds the openers from left to right, none
reaches into the next, and none is missed. At each of them a character begins, so that the pattern
can be cut, and the byte before it is a backslash exactly if the character before it is. -/
theorem scan_exact (pattern : String) :
    (hasGroup pattern.toList = true ↔
        ∃ u v, pattern = u ++ openerText ++ v ∧ u.toList.getLast? ≠ some '\\') ∧
      scan? pattern = some (hasGroup pattern.toList) ∧
      (openerOffsets pattern).Pairwise (fun m n => m + openerText.utf8ByteSize ≤ n) ∧
      (∀ n, n ∈ openerOffsets pattern ↔
        ∃ u v, pattern = u ++ openerText ++ v ∧ u.utf8ByteSize = n) ∧
      ∀ n ∈ openerOffsets pattern, String.Pos.Raw.IsValid pattern ⟨n⟩ ∧
        ∃ u, textBefore? pattern n = some u ∧
          (((bytes pattern).take n).getLast? = some '\\'.toUInt8 ↔
            u.toList.getLast? = some '\\') := by
  refine ⟨hasGroup_toList pattern, scan_eq pattern, openerOffsets_apart pattern,
    fun n => mem_openerOffsets, ?_⟩
  intro n found
  obtain ⟨u, v, rfl, rfl⟩ := mem_openerOffsets.1 found
  rw [String.append_assoc]
  refine ⟨isValid_append u (openerText ++ v), u, textBefore_append u (openerText ++ v), ?_⟩
  rw [take_bytes_append]
  exact getLast_bytes bytes_backslash u

/-- Behind a character of two bytes stands an opener that is escaped, and then one that is not. -/
theorem second_opener_found :
    openerOffsets "é\\(?<plural>a|(?<plural>b)" = [3, 15] ∧
      scan? "é\\(?<plural>a|(?<plural>b)" = some true ∧
      String.Pos.Raw.IsValid "é\\(?<plural>a|(?<plural>b)" ⟨15⟩ := by
  have places : openerOffsets "é\\(?<plural>a|(?<plural>b)" = [3, 15] := by decide +kernel
  obtain ⟨group, answer, -, -, cut⟩ := scan_exact "é\\(?<plural>a|(?<plural>b)"
  have found : hasGroup "é\\(?<plural>a|(?<plural>b)".toList = true :=
    group.2 ⟨"é\\(?<plural>a|", "b)", by decide, by decide⟩
  refine ⟨places, by rw [answer, found], (cut 15 ?_).1⟩
  rw [places]
  decide

end ScriptTypes.Plural
