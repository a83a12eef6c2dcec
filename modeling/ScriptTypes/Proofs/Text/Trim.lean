import Mathlib.Data.List.DropRight
import ScriptTypes.Text.Blank

namespace ScriptTypes.Text

def blanks : List Char :=
  blankRanges.flatMap fun r => (List.range' r.1 (r.2 + 1 - r.1)).map Char.ofNat

theorem mem_blanks {c : Char} (blank : isBlank c = true) : c ∈ blanks := by
  obtain ⟨range, member, inside⟩ := List.any_eq_true.1 blank
  obtain ⟨low, high⟩ : range.1 ≤ c.toNat ∧ c.toNat ≤ range.2 := by simpa using inside
  refine List.mem_flatMap.2 ⟨range, member, List.mem_map.2 ⟨c.toNat, ?_, Char.ofNat_toNat c⟩⟩
  exact List.mem_range'_1.2 ⟨low, by omega⟩

def Trimmed (cs : List Char) : Prop :=
  (∀ c, cs.head? = some c → isBlank c = false) ∧ ∀ c, cs.getLast? = some c → isBlank c = false

theorem head_dropWhile_blank (cs : List Char) (c : Char)
    (first : (cs.dropWhile isBlank).head? = some c) : isBlank c = false := by
  have kept := List.head?_dropWhile_not isBlank cs
  rw [first] at kept
  exact kept

theorem dropWhile_blank_of_head (cs : List Char)
    (first : ∀ c, cs.head? = some c → isBlank c = false) : cs.dropWhile isBlank = cs := by
  cases cs with
  | nil => rfl
  | cons c rest =>
      have dark : isBlank c = false := first c rfl
      rw [List.dropWhile_cons, dark]
      rfl

theorem trimChars_of_trimmed {cs : List Char} (trimmed : Trimmed cs) : trimChars cs = cs := by
  have left : cs.dropWhile isBlank = cs := dropWhile_blank_of_head cs trimmed.1
  have right : cs.reverse.dropWhile isBlank = cs.reverse :=
    dropWhile_blank_of_head cs.reverse (by simpa using trimmed.2)
  rw [trimChars, left, right, List.reverse_reverse]

theorem trimmed_trimChars (cs : List Char) : Trimmed (trimChars cs) := by
  refine ⟨?_, ?_⟩
  · intro c first
    have inner : trimChars cs <+: cs.dropWhile isBlank := by
      rw [trimChars, ← List.reverse_suffix, List.reverse_reverse]
      exact List.dropWhile_suffix isBlank
    obtain ⟨tail, split⟩ := inner
    refine head_dropWhile_blank cs c ?_
    rw [← split, List.head?_append, first]
    rfl
  · intro c last
    rw [trimChars, List.getLast?_reverse] at last
    exact head_dropWhile_blank _ c last

theorem trimmed_append {cs more : List Char} (trimmed : Trimmed cs) (more_trimmed : Trimmed more)
    (nonempty : more ≠ []) : Trimmed (cs ++ more) := by
  refine ⟨?_, ?_⟩
  · intro c first
    cases cs with
    | nil => exact more_trimmed.1 c first
    | cons d rest => exact trimmed.1 c first
  · intro c last
    have final : more.getLast? = some (more.getLast nonempty) :=
      List.getLast?_eq_some_getLast nonempty
    rw [List.getLast?_append, final, Option.some_or, ← final] at last
    exact more_trimmed.2 c last

def trimEnd (cs : List Char) : List Char := cs.rdropWhile isBlank

theorem trimEnd_append (front : List Char) {c : Char} (dark : isBlank c = false)
    (rest : List Char) : trimEnd (front ++ c :: rest) = front ++ c :: trimEnd rest := by
  simp only [trimEnd, List.rdropWhile, List.reverse_append, List.reverse_cons, List.append_assoc,
    List.singleton_append, List.dropWhile_append]
  split
  · rename_i nothing
    simp [List.isEmpty_iff.1 nothing, dark]
  · simp

theorem dropWhile_blank_append {lead : List Char} (blank : ∀ c ∈ lead, isBlank c = true) {c : Char}
    (dark : isBlank c = false) (rest : List Char) :
    (lead ++ c :: rest).dropWhile isBlank = c :: rest := by
  rw [List.dropWhile_append_of_pos blank, List.dropWhile_cons, dark]
  rfl

theorem trimChars_append {lead : List Char} (blank : ∀ c ∈ lead, isBlank c = true) {c : Char}
    (dark : isBlank c = false) (rest : List Char) :
    trimChars (lead ++ c :: rest) = c :: trimEnd rest := by
  have trimmed : trimChars (lead ++ c :: rest) = trimEnd (c :: rest) :=
    congrArg trimEnd (dropWhile_blank_append blank dark rest)
  exact trimmed.trans (trimEnd_append [] dark rest)

theorem trim_split (cs : List Char) :
    ∃ lead tail, cs = lead ++ trimChars cs ++ tail ∧ trimEnd cs = lead ++ trimChars cs ∧
      (∀ c ∈ lead, isBlank c = true) ∧ ∀ c ∈ tail, isBlank c = true := by
  let tail := cs.rtakeWhile isBlank
  have blank_tail : ∀ c ∈ tail, isBlank c = true := fun _ => List.mem_rtakeWhile_imp
  have whole : cs = trimEnd cs ++ tail := List.rdropWhile_append_rtakeWhile.symm
  cases visible : cs.dropWhile isBlank with
  | nil =>
      have all_blank : ∀ c ∈ cs, isBlank c = true := List.dropWhile_eq_nil_iff.1 visible
      have none_left : trimEnd cs = [] := List.rdropWhile_eq_nil_iff.2 all_blank
      have trimmed : trimChars cs = [] := by rw [trimChars, visible]; rfl
      rw [none_left] at whole
      refine ⟨[], tail, ?_, ?_, List.forall_mem_nil _, blank_tail⟩
      · rwa [trimmed]
      · rw [none_left, trimmed]
        rfl
  | cons c rest =>
      let lead := cs.takeWhile isBlank
      have blank : ∀ c ∈ lead, isBlank c = true := fun _ => List.mem_takeWhile_imp
      have dark : isBlank c = false := head_dropWhile_blank cs c (by rw [visible]; rfl)
      have split : cs = lead ++ c :: rest := by
        rw [← visible]
        exact List.takeWhile_append_dropWhile.symm
      have front : trimEnd cs = lead ++ trimChars cs := by
        rw [split, trimChars_append blank dark, trimEnd_append lead dark]
      exact ⟨lead, tail, front ▸ whole, front, blank, blank_tail⟩

end ScriptTypes.Text
