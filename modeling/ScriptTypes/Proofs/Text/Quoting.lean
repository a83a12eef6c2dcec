import ScriptTypes.Text.Quoted

namespace ScriptTypes.Text

open ScriptTypes.Unicode (isExtender isPrintable)

theorem append_mark_inj {mark : Char} {xs ys rest other : List Char} (absent : mark ∉ xs)
    (absent' : mark ∉ ys) : xs ++ mark :: rest = ys ++ mark :: other ↔ xs = ys ∧ rest = other := by
  induction xs generalizing ys with
  | nil =>
      cases ys with
      | nil => simp
      | cons y ys => simp [List.ne_of_not_mem_cons absent']
  | cons x xs ih =>
      cases ys with
      | nil => simp [(List.ne_of_not_mem_cons absent).symm]
      | cons y ys =>
          simp [ih (List.not_mem_of_not_mem_cons absent) (List.not_mem_of_not_mem_cons absent'),
            and_assoc]

/-! ### Hexadecimal numbers -/

theorem digitChar_inj : ∀ d < 16, ∀ e < 16, Nat.digitChar d = Nat.digitChar e → d = e := by decide

theorem closing_notMem_toDigits (n : Nat) : '\x7d' ∉ Nat.toDigits 16 n := by
  induction n using Nat.strongRecOn with
  | ind n ih =>
      rw [Nat.toDigits_eq_if (by decide)]
      split
      · simp
      · rw [List.mem_append, not_or]
        exact ⟨ih (n / 16) (by omega), by simp⟩

theorem toDigits_inj {m n : Nat} (same : Nat.toDigits 16 m = Nat.toDigits 16 n) : m = n := by
  induction m using Nat.strongRecOn generalizing n with
  | ind m ih =>
      rw [Nat.toDigits_eq_if (by decide), Nat.toDigits_eq_if (n := n) (by decide)] at same
      split at same <;> split at same
      · rename_i small_m small_n
        exact digitChar_inj m small_m n small_n (List.cons.inj same).1
      · have shorter := congrArg List.length same
        simp at shorter
      · have shorter := congrArg List.length same
        simp at shorter
      · obtain ⟨front, last⟩ := List.append_inj' same rfl
        have quotients := ih (m / 16) (by omega) front
        have rests := digitChar_inj (m % 16) (by omega) (n % 16) (by omega) (List.cons.inj last).1
        omega

/-! ### Characters -/

def namedEscapes : List (Char × Char) :=
  [('\x00', '0'), ('\t', 't'), ('\r', 'r'), ('\n', 'n'), ('\\', '\\'), ('\x22', '\x22')]

inductive Written (c : Char) : List Char → Prop
  | named {letter : Char} (entry : (c, letter) ∈ namedEscapes) : Written c ['\\', letter]
  | verbatim (no_backslash : c ≠ '\\') (no_quote : c ≠ '\x22') : Written c [c]
  | coded : Written c ('\\' :: 'u' :: '\x7b' :: (Nat.toDigits 16 c.toNat ++ ['\x7d']))

theorem escapeChar_named : ∀ a ∈ namedEscapes, escapeChar a.1 = ['\\', a.2] := by decide

theorem written_escapeChar (c : Char) : Written c (escapeChar c) := by
  by_cases named : c ∈ namedEscapes.map Prod.fst
  · obtain ⟨entry, member, rfl⟩ := List.mem_map.1 named
    rw [escapeChar_named entry member]
    exact .named member
  · obtain ⟨nul, tab, carriage, line, backslash, quote⟩ : c ≠ '\x00' ∧ c ≠ '\t' ∧ c ≠ '\r' ∧
        c ≠ '\n' ∧ c ≠ '\\' ∧ c ≠ '\x22' := by simpa [namedEscapes] using named
    simp only [escapeChar, nul, tab, carriage, line, backslash, quote, if_false]
    split
    · exact .verbatim backslash quote
    · exact .coded

theorem namedEscapes_inj : ∀ a ∈ namedEscapes, ∀ b ∈ namedEscapes, a.2 = b.2 → a.1 = b.1 := by
  decide

theorem namedEscapes_ne_u : ∀ a ∈ namedEscapes, a.2 ≠ 'u' := by decide

variable {c d : Char} {cs ds rest other : List Char}

theorem Written.inj (first : Written c cs) (last : Written d ds) (same : cs ++ rest = ds ++ other) :
    c = d ∧ rest = other := by
  cases first with
  | named entry =>
      cases last with
      | named entry' =>
          obtain ⟨letters, rests⟩ := List.cons.inj (List.cons.inj same).2
          exact ⟨namedEscapes_inj _ entry _ entry' letters, rests⟩
      | verbatim no_backslash _ => exact absurd (List.cons.inj same).1.symm no_backslash
      | coded =>
          exact absurd (List.cons.inj (List.cons.inj same).2).1 (namedEscapes_ne_u _ entry)
  | verbatim no_backslash _ =>
      cases last with
      | named entry => exact absurd (List.cons.inj same).1 no_backslash
      | verbatim _ _ => exact List.cons.inj same
      | coded => exact absurd (List.cons.inj same).1 no_backslash
  | coded =>
      cases last with
      | named entry =>
          exact absurd (List.cons.inj (List.cons.inj same).2).1.symm (namedEscapes_ne_u _ entry)
      | verbatim no_backslash _ => exact absurd (List.cons.inj same).1.symm no_backslash
      | coded =>
          have digits : Nat.toDigits 16 c.toNat ++ '\x7d' :: rest =
              Nat.toDigits 16 d.toNat ++ '\x7d' :: other := by simpa using same
          obtain ⟨codes, rests⟩ := (append_mark_inj (closing_notMem_toDigits _)
            (closing_notMem_toDigits _)).1 digits
          exact ⟨Char.toNat_inj.1 (toDigits_inj codes), rests⟩

theorem Written.ne_quote (written : Written c cs) : cs ++ rest ≠ '\x22' :: other := by
  intro same
  cases written with
  | named entry => exact absurd (List.cons.inj same).1 (by decide)
  | verbatim _ no_quote => exact no_quote (List.cons.inj same).1
  | coded => exact absurd (List.cons.inj same).1 (by decide)

/-! ### Texts -/

theorem escaped_inj
    (same : cs.flatMap escapeChar ++ '\x22' :: rest = ds.flatMap escapeChar ++ '\x22' :: other) :
    cs = ds ∧ rest = other := by
  induction cs generalizing ds with
  | nil =>
      cases ds with
      | nil => exact ⟨rfl, (List.cons.inj same).2⟩
      | cons d ds =>
          rw [List.flatMap_cons, List.append_assoc] at same
          exact absurd same.symm (written_escapeChar d).ne_quote
  | cons c cs ih =>
      rw [List.flatMap_cons, List.append_assoc] at same
      cases ds with
      | nil => exact absurd same (written_escapeChar c).ne_quote
      | cons d ds =>
          rw [List.flatMap_cons, List.append_assoc] at same
          obtain ⟨rfl, later⟩ := (written_escapeChar c).inj (written_escapeChar d) same
          obtain ⟨rfl, rests⟩ := ih later
          exact ⟨rfl, rests⟩

/-- A quoted text tells its end. -/
theorem quoted_append_inj {s t : String} :
    (quoted s).toList ++ rest = (quoted t).toList ++ other ↔ s = t ∧ rest = other := by
  constructor
  · intro same
    simp only [quoted, quoteChars, String.toList_ofList, List.cons_append, List.append_assoc,
      List.nil_append] at same
    obtain ⟨texts, rests⟩ := escaped_inj (List.cons.inj same).2
    exact ⟨String.toList_inj.1 texts, rests⟩
  · rintro ⟨rfl, rfl⟩
    rfl

end ScriptTypes.Text
