import Mathlib.Data.String.Basic

namespace ScriptTypes.Text

open String (utf8Len)

structure FirstAt (word text front back : List Char) : Prop where
  split : text = front ++ word ++ back
  least : ∀ u v, text = u ++ word ++ v → front.length ≤ u.length

/-- The places at which a word occurs in a text that begins at an offset. Occurrences do not
overlap: behind each of them the next one is the first in what is left. -/
inductive Occurrences (word : List Char) : (offset : Nat) → (text : List Char) → List Nat → Prop
  | none {offset : Nat} {text : List Char} (absent : ¬ word <:+: text) :
      Occurrences word offset text []
  | next {offset : Nat} {text front back : List Char} {starts : List Nat}
      (first : FirstAt word text front back)
      (rest : Occurrences word (offset + utf8Len front + utf8Len word) back starts) :
      Occurrences word offset text ((offset + utf8Len front) :: starts)

variable {word text front back : List Char} {x : Char}

theorem firstAt_start (word back : List Char) : FirstAt word (word ++ back) [] back :=
  ⟨rfl, fun _ _ _ => Nat.zero_le _⟩

theorem FirstAt.cons (first : FirstAt word text front back) (missed : ¬ word <+: x :: text) :
    FirstAt word (x :: text) (x :: front) back where
  split := by rw [first.split]; rfl
  least := by
    intro u v split
    cases u with
    | nil => exact absurd ⟨v, split.symm⟩ missed
    | cons y u =>
        have later : text = u ++ word ++ v := (List.cons.inj split).2
        exact Nat.succ_le_succ (first.least u v later)

theorem FirstAt.tail (first : FirstAt word text (x :: front) back) :
    ∃ rest, text = x :: rest ∧ ¬ word <+: text ∧ FirstAt word rest front back := by
  refine ⟨front ++ word ++ back, first.split, ?_, rfl, ?_⟩
  · rintro ⟨v, begins⟩
    exact absurd (first.least [] v begins.symm) (Nat.not_succ_le_zero _)
  · intro u v split
    refine Nat.le_of_succ_le_succ (first.least (x :: u) v ?_)
    rw [first.split]
    exact congrArg (x :: ·) split

theorem exists_firstAt (occurs : word <:+: text) : ∃ front back, FirstAt word text front back := by
  induction text with
  | nil =>
      obtain rfl := List.infix_nil.1 occurs
      exact ⟨[], [], firstAt_start [] []⟩
  | cons x rest ih =>
      by_cases begins : word <+: x :: rest
      · obtain ⟨back, split⟩ := begins
        exact ⟨[], back, split ▸ firstAt_start word back⟩
      · obtain ⟨front, back, first⟩ := ih ((List.infix_cons_iff.1 occurs).resolve_left begins)
        exact ⟨x :: front, back, first.cons begins⟩

theorem FirstAt.shorter (first : FirstAt word text front back) (filled : word ≠ []) :
    back.length < text.length := by
  have width := List.length_pos_iff.2 filled
  rw [first.split, List.length_append, List.length_append]
  omega

/-- A word whose first letter does not come again in it does not overlap itself. -/
theorem occurrences_apart {α : Type} {head : α} {tail rest u v : List α} (once : head ∉ tail)
    (same : head :: tail ++ rest = u ++ head :: tail ++ v) (later : u ≠ []) :
    ∃ w, u = head :: tail ++ w := by
  have long : (head :: tail).length ≤ u.length := by
    apply Nat.le_of_not_lt
    intro short
    obtain ⟨x, u, rfl⟩ := List.exists_cons_of_ne_nil later
    have inner : tail ++ rest = u ++ head :: tail ++ v := (List.cons.inj same).2
    have again : tail[u.length]? = some head := by
      rw [← List.getElem?_append_left (Nat.lt_of_succ_lt_succ short), inner]
      simp
    exact once (List.mem_of_getElem? again)
  have begins : head :: tail <+: u := by
    apply List.prefix_of_prefix_length_le ⟨rest, same⟩ _ long
    exact ⟨head :: tail ++ v, by simp⟩
  obtain ⟨w, split⟩ := begins
  exact ⟨w, split.symm⟩

end ScriptTypes.Text
