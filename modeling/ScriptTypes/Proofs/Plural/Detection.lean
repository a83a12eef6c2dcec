import ScriptTypes.Plural
import ScriptTypes.Proofs.Text.Occurrence
import ScriptTypes.Proofs.Text.Trim

/-!
What the search for a plural group finds: an opener somewhere in the text with no backslash before
it. Openers do not overlap, so the search misses none, and none lies across the end of a text and
the suffix put behind it.
-/

namespace ScriptTypes.Plural

open ScriptTypes.Text

/-- An opener stands in the text, and the character before it is no backslash. -/
def Opened (before : Option Char) (cs : List Char) : Prop :=
  ∃ u v, cs = u ++ opener ++ v ∧ u.getLast?.or before ≠ some '\\'

theorem afterOpener_eq_some {cs rest : List Char} :
    afterOpener? cs = some rest ↔ cs = opener ++ rest := by
  unfold afterOpener?
  constructor
  · intro found
    split at found
    · rename_i present
      obtain ⟨tail, rfl⟩ := List.isPrefixOf_iff_prefix.1 present
      cases found
      rw [List.drop_left]
    · cases found
  · intro same
    subst same
    have present : opener.isPrefixOf (opener ++ rest) = true :=
      List.isPrefixOf_iff_prefix.2 ⟨rest, rfl⟩
    rw [if_pos present, List.drop_left]

theorem afterOpener_eq_none {cs : List Char} (missing : afterOpener? cs = none) (v : List Char) :
    cs ≠ opener ++ v := by
  intro found
  rw [afterOpener_eq_some.2 found] at missing
  cases missing

theorem opener_paren {n : Nat} (paren : opener[n]? = some '(') : n = 0 := by
  have bound : n < opener.length := (List.getElem?_eq_some_iff.1 paren).1
  have only : ∀ n < opener.length, opener[n]? = some '(' → n = 0 := by decide
  exact only n bound paren

theorem suffix_paren {n : Nat} (paren : suffix[n]? = some '(') : n = 0 := by
  have bound : n < suffix.length := (List.getElem?_eq_some_iff.1 paren).1
  have only : ∀ n < suffix.length, suffix[n]? = some '(' → n = 0 := by decide
  exact only n bound paren

theorem getElem_start (u v : List Char) : (u ++ opener ++ v)[u.length]? = some '(' := by
  simp [opener]

theorem opener_apart {u v rest : List Char} (same : opener ++ rest = u ++ opener ++ v)
    (later : u ≠ []) : ∃ w, u = opener ++ w :=
  have once : '(' ∉ opener.tail := by decide
  occurrences_apart once same later

theorem getLast_opener_append (w : List Char) (before : Option Char) :
    (opener ++ w).getLast?.or before = w.getLast?.or (some '>') := by
  rw [List.getLast?_append]
  cases w.getLast? <;> rfl

theorem opens_iff (before : Option Char) (cs : List Char) :
    opens before cs = true ↔ Opened before cs := by
  fun_induction opens before cs with
  | case1 before cs rest found ih =>
      obtain rfl := afterOpener_eq_some.1 found
      simp only [Bool.or_eq_true, decide_eq_true_eq, ih]
      constructor
      · rintro (free | ⟨u, v, rfl, free⟩)
        · exact ⟨[], rest, rfl, free⟩
        · exact ⟨opener ++ u, v, by simp, by rwa [getLast_opener_append]⟩
      · rintro ⟨u, v, same, free⟩
        by_cases here : u = []
        · subst here
          exact .inl free
        · obtain ⟨w, rfl⟩ := opener_apart same here
          rw [getLast_opener_append] at free
          exact .inr ⟨w, v, by simpa using same, free⟩
  | case2 before missing =>
      simp only [Bool.false_eq_true, false_iff]
      rintro ⟨u, v, same, -⟩
      simp [opener] at same
  | case3 before c rest missing ih =>
      rw [ih]
      constructor
      · rintro ⟨u, v, rfl, free⟩
        refine ⟨c :: u, v, rfl, ?_⟩
        rw [List.getLast?_cons]
        cases last : u.getLast? <;> simpa [last] using free
      · rintro ⟨u, v, same, free⟩
        cases u with
        | nil => exact absurd same (afterOpener_eq_none missing v)
        | cons d u =>
            obtain ⟨rfl, rfl⟩ : c = d ∧ rest = u ++ opener ++ v := by simpa using same
            refine ⟨u, v, rfl, ?_⟩
            rw [List.getLast?_cons] at free
            cases last : u.getLast? <;> simpa [last] using free

theorem hasGroup_iff (cs : List Char) :
    hasGroup cs = true ↔ ∃ u v, cs = u ++ opener ++ v ∧ u.getLast? ≠ some '\\' := by
  simp only [hasGroup, opens_iff, Opened, Option.or_none]

/-- An opener in a part of a text stands in the text too, and is not escaped from outside the part
if no backslash stands before that. -/
theorem hasGroup_of_part {front part back : List Char} (plain : front.getLast? ≠ some '\\')
    (found : hasGroup part = true) : hasGroup (front ++ part ++ back) = true := by
  obtain ⟨u, v, rfl, free⟩ := (hasGroup_iff part).1 found
  refine (hasGroup_iff _).2 ⟨front ++ u, v ++ back, by simp, ?_⟩
  rw [List.getLast?_append]
  cases last : u.getLast? with
  | none => exact plain
  | some c => rwa [last] at free

/-- The suffix is found unless a backslash stands before it, and brings no opener but its own. -/
theorem hasGroup_append_suffix (cs : List Char) :
    hasGroup (cs ++ suffix) = true ↔ hasGroup cs = true ∨ cs.getLast? ≠ some '\\' := by
  simp only [hasGroup_iff]
  constructor
  · rintro ⟨u, v, same, free⟩
    have paren : (cs ++ suffix)[u.length]? = some '(' := by rw [same]; exact getElem_start u v
    rcases Nat.lt_or_ge u.length cs.length with inside | behind
    · left
      have fits : (u ++ opener).length ≤ cs.length := by
        refine Nat.le_of_not_lt fun short => ?_
        -- the suffix would begin inside the opener
        have start : (u ++ opener ++ v)[cs.length]? = some '(' := by
          rw [← same, List.getElem?_append_right (Nat.le_refl _), Nat.sub_self]
          rfl
        rw [List.getElem?_append_left short, List.getElem?_append_right (by omega)] at start
        have := opener_paren start
        omega
      have begins : u ++ opener <+: cs :=
        List.prefix_of_prefix_length_le ⟨v, same.symm⟩ (List.prefix_append cs suffix) fits
      obtain ⟨w, split⟩ := begins
      exact ⟨u, w, split.symm, free⟩
    · right
      rw [List.getElem?_append_right behind] at paren
      have level : u.length = cs.length := by
        have := suffix_paren paren
        omega
      rw [List.append_assoc] at same
      obtain ⟨rfl, -⟩ := List.append_inj same level.symm
      exact free
  · rintro (⟨u, v, rfl, free⟩ | free)
    · exact ⟨u, v ++ suffix, by simp, free⟩
    · exact ⟨cs, [')', '?', '?'], by simp [opener, suffix], free⟩

end ScriptTypes.Plural
