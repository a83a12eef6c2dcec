import ScriptTypes.Proofs.Descriptor.Malformed
import ScriptTypes.Proofs.Pattern.Led
import ScriptTypes.Unicode.Binary

/-!
Patterns that trimming spoils. A pattern that is valid as it was given can stand without the white
space around it, with two exceptions: an operator that repeats a blank at the beginning has nothing
to repeat, and a backslash that escapes a blank at the end escapes the suffix.
-/

namespace ScriptTypes

open ScriptTypes.Pattern
open ScriptTypes.Plural
open ScriptTypes.Text

namespace Unicode

def whiteSpace : CharSet := ((binaryTable.lookup "White_Space").map .ofTable).getD .empty

theorem whiteSpace_eq : whiteSpace = ⟨blankRanges⟩ := by decide +kernel

theorem isBlank_eq (c : Char) : isBlank c = whiteSpace.contains c := by
  rw [whiteSpace_eq]
  rfl

end Unicode

namespace Pattern

/-- Whether a text begins with white space, and what follows it is an operator. -/
def repeatsBlank (text : List Char) : Bool :=
  text.head?.any isBlank && (text.dropWhile isBlank).head?.any operators.contains

/-- Whether white space stands at the end of a text, and a backslash escapes the first of it. -/
def escapesBlank (text : List Char) : Bool :=
  trimEnd text ≠ text && endsInEscape (trimEnd text)

theorem repeatsBlank_iff (text : List Char) :
    repeatsBlank text = true ↔ ∃ lead c rest, text = lead ++ c :: rest ∧ lead ≠ [] ∧
      (∀ d ∈ lead, isBlank d = true) ∧ c ∈ operators := by
  simp only [repeatsBlank, Bool.and_eq_true, Option.any_eq_true, List.contains_iff_mem]
  constructor
  · rintro ⟨⟨first, begins, blank⟩, c, follows, operator⟩
    obtain ⟨rest, behind⟩ := List.head?_eq_some_iff.1 follows
    refine ⟨text.takeWhile isBlank, c, rest, ?_, ?_, fun _ => List.mem_takeWhile_imp, operator⟩
    · rw [← behind, List.takeWhile_append_dropWhile]
    · obtain ⟨tail, rfl⟩ := List.head?_eq_some_iff.1 begins
      rw [List.takeWhile_cons_of_pos blank]
      exact List.cons_ne_nil _ _
  · rintro ⟨lead, c, rest, rfl, some_lead, blank, operator⟩
    refine ⟨⟨lead.head some_lead, ?_, blank _ (List.head_mem some_lead)⟩, c, ?_, operator⟩
    · rw [List.head?_append_of_ne_nil _ some_lead, List.head?_eq_some_head some_lead]
    · rw [dropWhile_blank_append blank (dark_operator operator)]
      rfl

theorem trim_of_repeatsBlank {text : List Char} (repeats : repeatsBlank text = true) :
    ∃ c rest, trimChars text = c :: rest ∧ c ∈ operators := by
  obtain ⟨lead, c, rest, rfl, -, blank, operator⟩ := (repeatsBlank_iff text).1 repeats
  exact ⟨c, _, trimChars_append blank (dark_operator operator) rest, operator⟩

theorem trimEnd_ne {text tail : List Char} (split : text = trimEnd text ++ tail)
    (some_tail : tail ≠ []) : trimEnd text ≠ text := by
  intro same
  rw [same] at split
  exact some_tail (List.append_right_eq_self.1 split.symm)

theorem mode_of_endsInEscape {text : List Char} {r : Reader}
    (read : Reader.initial.run text = .ok r) (escaped : endsInEscape text = true) :
    ∃ start place, r.mode = .escape start place := by
  rw [endsInEscape, read] at escaped
  dsimp only at escaped
  split at escaped
  · exact ⟨_, _, ‹_›⟩
  · cases escaped

variable {text : List Char} {e : Expr} {result : Form × Flags}

theorem not_operator_of_valid {lead tail rest : List Char} {c : Char}
    (spelled : Expr.ofText? text = .ok e) (unrepeated : repeatsBlank text = false)
    (split : text = lead ++ c :: rest ++ tail) (blank : ∀ d ∈ lead, isBlank d = true) :
    c ∉ operators := by
  intro operator
  by_cases none_lead : lead = []
  · subst none_lead
    obtain ⟨fault, refused⟩ := ofText_operator operator (rest ++ tail)
    rw [split, List.nil_append, List.cons_append, refused] at spelled
    cases spelled
  · have repeats : repeatsBlank text = true :=
      (repeatsBlank_iff text).2 ⟨lead, c, rest ++ tail, by simp [split], none_lead, blank, operator⟩
    rw [unrepeated] at repeats
    cases repeats

theorem read_of_escapesBlank (spelled : Expr.ofText? text = .ok e) (meant : e.form {} = .ok result)
    (escapes : escapesBlank text = true) :
    ∃ r start, Reader.initial.run (trimEnd text) = .ok r ∧ r.mode = .escape start .sequence ∧
      r.frames = [] := by
  obtain ⟨lead, tail, split, front, -, blank⟩ := trim_split text
  rw [← front] at split
  rw [split] at spelled
  obtain ⟨r, read, escape | ⟨own, own_spelled, -⟩⟩ := ofText_of_blanks blank spelled meant
  · obtain ⟨-, closed, start, mode⟩ := escape
    exact ⟨r, start, read, mode, closed⟩
  · simp only [escapesBlank, Bool.and_eq_true] at escapes
    obtain ⟨start, place, mode⟩ := mode_of_endsInEscape read escapes.2
    obtain ⟨s, own_read, finished, -⟩ := ofText_eq_ok.1 own_spelled
    rw [read] at own_read
    cases own_read
    rw [Reader.finish, mode] at finished
    cases finished

/-- The text before an escaped blank ends in an odd number of backslashes, trimmed or not. -/
theorem odd_of_escapesBlank (spelled : Expr.ofText? text = .ok e) (meant : e.form {} = .ok result)
    (escapes : escapesBlank text = true) : backslashes (trimChars text) % 2 = 1 := by
  obtain ⟨r, start, read, mode, -⟩ := read_of_escapesBlank spelled meant escapes
  obtain ⟨lead, tail, -, front, blank, -⟩ := trim_split text
  have odd := (odd_of_escape read mode).2
  rwa [front, backslashes_append fun c member => (not_bracket_blank (blank c member)).2] at odd

/-- A valid pattern that neither repeats a blank at its beginning nor escapes one at its end is
valid when it is trimmed, with the same names at most. -/
theorem trim_valid (spelled : Expr.ofText? text = .ok e) (meant : e.form {} = .ok result)
    (unrepeated : repeatsBlank text = false) (unescaped : escapesBlank text = false) :
    ∃ own own_result, Expr.ofText? (trimChars text) = .ok own ∧ own.form {} = .ok own_result ∧
      namesOf own.groups ⊆ namesOf e.groups := by
  obtain ⟨lead, tail, split, front, blank_lead, blank_tail⟩ := trim_split text
  have split_end : text = trimEnd text ++ tail := by rwa [← front] at split
  have whole := spelled
  rw [split_end] at whole
  obtain ⟨r, read, escape | ⟨middle, middle_spelled, vouches, groups⟩⟩ :=
    ofText_of_blanks blank_tail whole meant
  · obtain ⟨some_tail, -, start, mode⟩ := escape
    simp [escapesBlank, trimEnd_ne split_end some_tail, endsInEscape, read, mode] at unescaped
  obtain ⟨form, middle_meant⟩ := vouches.meant {} result.1 result.2 meant
  have names : namesOf middle.groups ⊆ namesOf e.groups := (groups.filterMap _).subset
  rw [front] at middle_spelled
  cases trimmed : trimChars text with
  | nil => exact ⟨.empty _, _, rfl, rfl, List.nil_subset _⟩
  | cons c rest =>
      rw [trimmed] at middle_spelled split
      have plain := not_operator_of_valid spelled unrepeated split blank_lead
      obtain ⟨own, own_spelled, more, same⟩ := ofText_behind blank_lead plain middle_spelled
      obtain ⟨own_form, own_meant⟩ := more.meant {} form result.2 middle_meant
      exact ⟨own, _, own_spelled, own_meant, same ▸ names⟩

/-- Behind the open escape of a trimmed pattern the suffix closes a group that is not there. -/
theorem trim_escaped (spelled : Expr.ofText? text = .ok e) (meant : e.form {} = .ok result)
    (unrepeated : repeatsBlank text = false) (escapes : escapesBlank text = true) :
    ∃ fault, Expr.ofText? (trimChars text ++ suffix) = .error fault := by
  have odd := odd_of_escapesBlank spelled meant escapes
  obtain ⟨r, start, read, mode, closed⟩ := read_of_escapesBlank spelled meant escapes
  obtain ⟨lead, tail, split, front, blank, -⟩ := trim_split text
  rw [front] at read
  cases trimmed : trimChars text with
  | nil =>
      rw [trimmed] at odd
      cases odd
  | cons c rest =>
      rw [trimmed] at read split
      have plain := not_operator_of_valid spelled unrepeated split blank
      obtain ⟨o, s, read_own, alike, led⟩ := run_behind blank plain read
      obtain ⟨moved, own_mode⟩ := alike.escape mode
      have refused := Reader.run_suffix_escape own_mode (odd_of_escape read_own own_mode).1
      rw [alike.closed (led.leads.closed closed)] at refused
      rw [Expr.ofText?, Reader.run_append Reader.suffix_completes_nothing, read_own]
      simp only [bind, Except.bind, refused]
      exact ⟨_, rfl⟩

theorem formOf_suffix_of_valid (spelled : Expr.ofText? text = .ok e)
    (meant : e.form {} = .ok result) (unnamed : groupName ∉ namesOf e.groups)
    (within : ∀ rejection, Matcher.formOf? (text ++ suffix) = .error rejection →
      rejection.isLimit = false) :
    ∃ form, Matcher.formOf? (text ++ suffix) = .ok form := by
  obtain ⟨form, after⟩ := result
  obtain ⟨r, s, reads⟩ := reads_ofText spelled
  cases commented : r.inComment with
  | true =>
      obtain ⟨other, means, read⟩ := ofText_commented reads commented
        Reader.suffix_completes_nothing (by decide)
      exact ⟨form, (formOf_within read (means _ _ meant) within).2⟩
  | false =>
      obtain ⟨extended, takes, read⟩ := ofText_suffix_of_valid reads unnamed commented
      obtain ⟨more, extended_meant, -⟩ := suffix_form reads takes spelled meant
      exact ⟨more, (formOf_within read extended_meant within).2⟩

end Pattern

theorem hasGroup_trimmed {q : Request} (missed : hasGroup q.pattern.toList = false) :
    hasGroup q.trimmed = false := by
  obtain ⟨lead, tail, split, -, blank, -⟩ := trim_split q.pattern.toList
  have plain : lead.getLast? ≠ some '\\' := fun last =>
    (not_bracket_blank (blank _ (List.mem_of_getLast? last))).2 rfl
  rw [split] at missed
  refine Bool.eq_false_iff.2 fun found => ?_
  have still : hasGroup (lead ++ trimChars q.pattern.toList ++ tail) = true :=
    hasGroup_of_part plain found
  rw [missed] at still
  cases still

/-- What trimming does to a pattern that is valid as it was given, in which no plural group is found
and which has none. It drops the white space of Unicode at both ends. The pattern makes a
descriptor, unless it repeats a blank at its beginning or escapes one at its end; then it is refused
as malformed. Without its end, a pattern of the second kind ends in an odd number of backslashes. -/
theorem trimming_spoils (q : Request) (e : Expr) (result : Form × Flags)
    (spelled : Expr.ofText? q.pattern.toList = .ok e) (meant : e.form {} = .ok result)
    (unnamed : groupName ∉ namesOf e.groups) (missed : hasGroup q.pattern.toList = false)
    (within : ∀ rejection, Matcher.formOf? (normalizedSource q.pattern).toList = .error rejection →
      rejection.isLimit = false) :
    (∃ lead tail, q.pattern.toList = lead ++ q.trimmed ++ tail ∧
      (∀ c ∈ lead ++ tail, Unicode.whiteSpace.contains c = true) ∧
      ∀ c, q.trimmed.head? = some c ∨ q.trimmed.getLast? = some c →
        Unicode.whiteSpace.contains c = false) ∧
    (repeatsBlank q.pattern.toList = false → escapesBlank q.pattern.toList = false →
      ∃ d, q.build = .ok d) ∧
    (repeatsBlank q.pattern.toList = true ∨ escapesBlank q.pattern.toList = true →
      ∃ fault, q.build = .error ⟨q.baseName, normalizedSource q.pattern, .invalid fault⟩) ∧
    (escapesBlank q.pattern.toList = true → backslashes q.trimmed % 2 = 1) := by
  have missed_trimmed := hasGroup_trimmed missed
  have source : normalizedSource q.pattern = .ofList (q.trimmed ++ suffix) :=
    normalizedSource_of_missed missed_trimmed
  rw [source, String.toList_ofList] at within
  have refused {fault : Fault} (faulty : Expr.ofText? (q.trimmed ++ suffix) = .error fault) :
      q.build = .error ⟨q.baseName, normalizedSource q.pattern, .invalid fault⟩ := by
    rw [source]
    exact build_of_missed_error missed_trimmed (formOf_of_fault faulty)
  refine ⟨?_, fun unrepeated unescaped => ?_, fun spoiled => ?_, odd_of_escapesBlank spelled meant⟩
  · obtain ⟨lead, tail, split, -, blank_lead, blank_tail⟩ := trim_split q.pattern.toList
    obtain ⟨first, last⟩ := trimmed_trimChars q.pattern.toList
    simp only [← Unicode.isBlank_eq]
    exact ⟨lead, tail, split, List.forall_mem_append.2 ⟨blank_lead, blank_tail⟩,
      fun c ends => ends.elim (first c) (last c)⟩
  · obtain ⟨own, own_result, own_spelled, own_meant, names⟩ :=
      trim_valid spelled meant unrepeated unescaped
    obtain ⟨form, compiled⟩ :=
      formOf_suffix_of_valid own_spelled own_meant (fun named => unnamed (names named)) within
    exact ⟨_, build_of_missed missed_trimmed compiled⟩
  -- both can be the case at once; the operator at the beginning is then read first
  · cases repeats : repeatsBlank q.pattern.toList with
    | true =>
        obtain ⟨c, rest, trimmed, operator⟩ := trim_of_repeatsBlank repeats
        have begins : q.trimmed = c :: rest := trimmed
        obtain ⟨fault, faulty⟩ := ofText_operator operator (rest ++ suffix)
        rw [← List.cons_append, ← begins] at faulty
        exact ⟨fault, refused faulty⟩
    | false =>
        have escapes := spoiled.resolve_left (by simp [repeats])
        obtain ⟨fault, faulty⟩ := trim_escaped spelled meant repeats escapes
        exact ⟨fault, refused faulty⟩

theorem valid_of_view (text : List Char)
    (view : (Expr.ofText? text).map (fun e => (namesOf e.groups, (e.form {}).isOk)) =
      .ok ([], true)) :
    ∃ e result, Expr.ofText? text = .ok e ∧ e.form {} = .ok result ∧
      groupName ∉ namesOf e.groups := by
  obtain ⟨e, spelled, same⟩ := exists_of_map_eq_ok view
  obtain ⟨no_names, valid⟩ := Prod.mk.inj same
  cases meant : e.form {} with
  | error fault =>
      rw [meant] at valid
      cases valid
  | ok result =>
      refine ⟨e, result, spelled, meant, ?_⟩
      rw [no_names]
      exact List.not_mem_nil

/-- A word loses its padding; a blank that is repeated or escaped is missed. -/
theorem padding_is_dropped :
    (∃ d, Request.build ⟨"ox", " ox\n", .text, .textSlice, none, none, .new⟩ = .ok d) ∧
    (∃ fault, Request.build ⟨"t", " *", .text, .textSlice, none, none, .new⟩ =
      .error ⟨"t", "*(?<plural>)??", .invalid fault⟩) ∧
    ∃ fault, Request.build ⟨"t", "ox\\ ", .text, .textSlice, none, none, .new⟩ =
      .error ⟨"t", "ox\\(?<plural>)??", .invalid fault⟩ := by
  refine ⟨?_, ?_, ?_⟩
  · let q : Request := ⟨"ox", " ox\n", .text, .textSlice, none, none, .new⟩
    obtain ⟨e, result, spelled, meant, unnamed⟩ := valid_of_view q.pattern.toList (by decide +kernel)
    have missed : hasGroup q.pattern.toList = false := by decide +kernel
    have source : normalizedSource q.pattern = "ox(?<plural>)??" := by decide +kernel
    have compiled : Matcher.formOf? "ox(?<plural>)??".toList =
        .ok (.seq (.literal ['o', 'x']) (.mark 1 groupName false)) := by decide +kernel
    have within : ∀ rejection, Matcher.formOf? (normalizedSource q.pattern).toList =
        .error rejection → rejection.isLimit = false := by
      rw [source, compiled]
      rintro _ ⟨⟩
    exact (trimming_spoils q e result spelled meant unnamed missed within).2.1
      (by decide +kernel) (by decide +kernel)
  · let q : Request := ⟨"t", " *", .text, .textSlice, none, none, .new⟩
    obtain ⟨e, result, spelled, meant, unnamed⟩ := valid_of_view q.pattern.toList (by decide +kernel)
    have missed : hasGroup q.pattern.toList = false := by decide +kernel
    have source : normalizedSource q.pattern = "*(?<plural>)??" := by decide +kernel
    have compiled : Matcher.formOf? "*(?<plural>)??".toList =
        .error (.invalid ⟨.repetitionMissing, .empty .first, none⟩) := by decide +kernel
    have within : ∀ rejection, Matcher.formOf? (normalizedSource q.pattern).toList =
        .error rejection → rejection.isLimit = false := by
      rw [source, compiled]
      rintro _ ⟨⟩
      rfl
    rw [← source]
    exact (trimming_spoils q e result spelled meant unnamed missed within).2.2.1
      (.inl (by decide +kernel))
  · let q : Request := ⟨"t", "ox\\ ", .text, .textSlice, none, none, .new⟩
    obtain ⟨e, result, spelled, meant, unnamed⟩ := valid_of_view q.pattern.toList (by decide +kernel)
    have missed : hasGroup q.pattern.toList = false := by decide +kernel
    have source : normalizedSource q.pattern = "ox\\(?<plural>)??" := by decide +kernel
    have compiled : Matcher.formOf? "ox\\(?<plural>)??".toList =
        .error (.invalid ⟨.groupUnopened, .char ⟨13, 1, 14⟩ ')', none⟩) := by decide +kernel
    have within : ∀ rejection, Matcher.formOf? (normalizedSource q.pattern).toList =
        .error rejection → rejection.isLimit = false := by
      rw [source, compiled]
      rintro _ ⟨⟩
      rfl
    rw [← source]
    exact (trimming_spoils q e result spelled meant unnamed missed within).2.2.1
      (.inr (by decide +kernel))

end ScriptTypes
