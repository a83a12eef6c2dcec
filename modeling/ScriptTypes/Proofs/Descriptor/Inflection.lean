import ScriptTypes.Proofs.Descriptor.Recognition
import ScriptTypes.Proofs.Pattern.Endings
import ScriptTypes.Proofs.Pattern.Spelling
import ScriptTypes.Proofs.Plural.Normalizing

namespace ScriptTypes

open ScriptTypes.Pattern
open ScriptTypes.Plural
open ScriptTypes.Text
open String (utf8Len)

/-- What an ending can stand behind. -/
structure Stem (s : String) : Prop where
  filled : s ≠ ""
  begins : ∀ c, s.toList.head? = some c → isBlank c = false
  plain : Plain s.toList

structure Ending (b : String) : Prop where
  filled : b ≠ ""
  plain : Plain b.toList

section

variable {s a b : String}

theorem Stem.toList_ne_nil (stem : Stem s) : s.toList ≠ [] := mt String.toList_eq_nil_iff.1 stem.filled

theorem Ending.toList_ne_nil (ending : Ending b) : b.toList ≠ [] :=
  mt String.toList_eq_nil_iff.1 ending.filled

theorem last_of_plain {text : List Char} (plain : Plain text) : text.getLast? ≠ some '\\' :=
  fun last => plain '\\' (List.mem_of_getLast? last) (by decide)

theorem stem_of_cons {c : Char} {rest : List Char} (split : s.toList = c :: rest)
    (dark : isBlank c = false) (plain : Plain s.toList) : Stem s where
  filled := by
    rintro rfl
    cases split
  begins := by
    intro first same
    rw [split] at same
    cases same
    exact dark
  plain := plain

theorem Stem.begins_append (stem : Stem s) (rest : List Char) (c : Char)
    (first : (s.toList ++ rest).head? = some c) : isBlank c = false := by
  refine stem.begins c ?_
  rwa [List.head?_append_of_ne_nil _ stem.toList_ne_nil] at first

theorem source_of_kept {pattern u v : List Char} {d : Char} (split : pattern = u ++ opener ++ v)
    (free : u.getLast? ≠ some '\\') (first : ∀ c, pattern.head? = some c → isBlank c = false)
    (last : v.getLast? = some d) (dark : isBlank d = false) :
    (normalize pattern).source = pattern := by
  have found : hasGroup pattern = true := (hasGroup_iff pattern).2 ⟨u, v, split, free⟩
  have trimmed : Trimmed pattern := by
    refine ⟨first, fun c final => ?_⟩
    rw [split, List.getLast?_append, last] at final
    cases final
    exact dark
  rw [source_normalize, trimChars_of_trimmed trimmed, if_pos found]

theorem source_choice (stem : Stem s) (a b : List Char) :
    (normalize (s.toList ++ choiceText a b)).source = s.toList ++ choiceText a b := by
  refine source_of_kept (u := s.toList ++ ('(' :: a) ++ ['|']) (v := b ++ [')', ')']) ?_ ?_
    (stem.begins_append _) (d := ')') ?_ (by decide)
  · simp [choiceText]
  · rw [List.getLast?_concat]
    decide
  · simp

theorem source_optional (stem : Stem s) (b : List Char) (greedy : Bool) :
    (normalize (s.toList ++ optionalText b greedy)).source = s.toList ++ optionalText b greedy := by
  refine source_of_kept (u := s.toList) (v := b ++ ')' :: optionalMarks greedy) ?_
    (last_of_plain stem.plain) (stem.begins_append _) (d := '?') ?_ (by decide)
  · simp [optionalText]
  · cases greedy <;> simp [optionalMarks]

theorem source_anchored (stem : Stem s) (b : List Char) :
    (normalize (anchoredText s.toList b)).source = anchoredText s.toList b := by
  refine source_of_kept (u := '^' :: s.toList) (v := b ++ [')', '?', '?', '$']) ?_ ?_ ?_ (d := '$')
    ?_ (by decide)
  · simp [anchoredText, optionalText, optionalMarks]
  · rw [List.getLast?_cons_of_ne_nil stem.toList_ne_nil]
    exact last_of_plain stem.plain
  · intro c first
    cases first
    decide
  · simp

theorem toList_choice (s a b : String) :
    (s ++ "(" ++ a ++ "|(?<plural>" ++ b ++ "))").toList =
      s.toList ++ choiceText a.toList b.toList := by
  simp [choiceText, opener]

theorem toList_greedy (s b : String) :
    (s ++ "(?<plural>" ++ b ++ ")?").toList = s.toList ++ optionalText b.toList true := by
  simp [optionalText, optionalMarks, opener]

theorem toList_lazy (s b : String) :
    (s ++ "(?<plural>" ++ b ++ ")??").toList = s.toList ++ optionalText b.toList false := by
  simp [optionalText, optionalMarks, opener]

theorem toList_anchored (s b : String) :
    ("^" ++ s ++ "(?<plural>" ++ b ++ ")??$").toList = anchoredText s.toList b.toList := by
  simp [anchoredText, optionalText, optionalMarks, opener]

end

theorem build_of_kept {q : Request} {pattern : List Char} {form : Form}
    (same : q.pattern.toList = pattern) (kept : (normalize pattern).source = pattern) (fits : q.Fits)
    (compiles : Matcher.formOf? pattern ≠ .error (.tooLarge weightLimit) →
      Matcher.formOf? pattern = .ok form) :
    ∃ d, q.build = .ok d ∧ d.source = q.pattern ∧ d.matcher.form = form := by
  subst same
  have source : normalizedSource q.pattern = q.pattern := by
    rw [normalizedSource, kept, String.ofList_toList]
  rw [Request.Fits, kept] at fits
  exact ⟨_, build_of_form (kept.symm ▸ compiles fits), source, rfl⟩

section

variable {d : AnyDescriptor}

theorem shows_append {form : Form} (same : d.matcher.form = form) {index : Nat}
    (names : d.matcher.groupIndex? groupName = some index) {s t : String} {first : Match}
    (found : form.firstMatch? (s.toList ++ t.toList) = some first) :
    d.Shows (s ++ t) first.extent (first.group? index) := by
  rw [← same, ← String.toList_append] at found
  exact AnyDescriptor.shows_of_first names found

theorem groupIndex_of_captures {m : Matcher} {groups : List Group}
    (captures : m.form.captures = groups) :
    m.groupIndex? groupName =
      ((listed groups).zipIdx.find? fun g => g.1 = some groupName).map (·.2) := by
  rw [Matcher.groupIndex?, groupNames_eq, captures]

variable {s a b : String}

theorem groupIndex_of_choice (form : d.matcher.form = .choice s.toList a.toList b.toList) :
    d.matcher.groupIndex? groupName = some 2 := by
  rw [groupIndex_of_captures (form ▸ Form.captures_choice _ _ _)]
  rfl

theorem shows_choice_first (form : d.matcher.form = .choice s.toList a.toList b.toList) {t : String}
    (begins : a.toList <+: t.toList) :
    d.Shows (s ++ t) ⟨0, (s ++ a).utf8ByteSize⟩ none := by
  have found := Form.firstMatch_choice_first s.toList b.toList begins
  simpa [Match.group?, List.lookup_cons] using shows_append form (groupIndex_of_choice form) found

theorem shows_choice_second (form : d.matcher.form = .choice s.toList a.toList b.toList)
    (missed : ¬ a.toList <+: b.toList) :
    d.Shows (s ++ b) ⟨0, (s ++ b).utf8ByteSize⟩ (some ⟨s.utf8ByteSize, (s ++ b).utf8ByteSize⟩) := by
  have found := Form.firstMatch_choice_second s.toList missed List.prefix_rfl
  simpa [Match.group?, List.lookup_cons] using shows_append form (groupIndex_of_choice form) found

theorem groupIndex_of_optional {greedy : Bool}
    (form : d.matcher.form = .led s.toList (.optional b.toList greedy)) :
    d.matcher.groupIndex? groupName = some 1 := by
  rw [groupIndex_of_captures (form ▸ (Form.captures_led _ _).trans (Form.captures_optional _ _))]
  rfl

section

variable (form : d.matcher.form = .led s.toList (.optional b.toList true))
include form

theorem shows_greedy_taken :
    d.Shows (s ++ b) ⟨0, (s ++ b).utf8ByteSize⟩ (some ⟨s.utf8ByteSize, (s ++ b).utf8ByteSize⟩) := by
  have found := Form.firstMatch_greedy_taken (b := b.toList) s.toList List.prefix_rfl
  simpa [Match.group?] using shows_append form (groupIndex_of_optional form) found

theorem shows_greedy_missed (filled : b.toList ≠ []) : d.Shows s ⟨0, s.utf8ByteSize⟩ none := by
  have found := Form.firstMatch_greedy_missed (t := []) s.toList (mt List.prefix_nil.1 filled)
  rw [← form, List.append_nil] at found
  simpa [Match.group?] using
    AnyDescriptor.shows_of_first (groupIndex_of_optional form) found

end

theorem shows_lazy (form : d.matcher.form = .led s.toList (.optional b.toList false)) (t : String) :
    d.Shows (s ++ t) ⟨0, s.utf8ByteSize⟩ none := by
  have found := Form.firstMatch_lazy s.toList b.toList t.toList
  simpa [Match.group?] using shows_append form (groupIndex_of_optional form) found

section

variable (form : d.matcher.form = .anchored s.toList b.toList) (filled : b.toList ≠ [])
include form filled

omit filled in
theorem groupIndex_of_anchored : d.matcher.groupIndex? groupName = some 1 := by
  rw [groupIndex_of_captures (form ▸ Form.captures_anchored _ _)]
  rfl

theorem shows_anchored_taken :
    d.Shows (s ++ b) ⟨0, (s ++ b).utf8ByteSize⟩ (some ⟨s.utf8ByteSize, (s ++ b).utf8ByteSize⟩) := by
  have found := Form.firstMatch_anchored_taken s.toList filled
  simpa [Match.group?] using shows_append form (groupIndex_of_anchored form) found

theorem shows_anchored_missed : d.Shows s ⟨0, s.utf8ByteSize⟩ none := by
  have found := Form.firstMatch_anchored_missed s.toList filled
  rw [← form] at found
  simpa [Match.group?] using
    AnyDescriptor.shows_of_first (groupIndex_of_anchored form) found

end

/-- A word with the second ending is a plural, unless the first one is a beginning of the second:
then it is a singular, if the two are the same, and else not recognized. -/
theorem recognize_choice (form : d.matcher.form = .choice s.toList a.toList b.toList)
    (filled : b.toList ≠ []) :
    d.recognize? (s ++ b) =
      if a = b then some false else if a.toList <+: b.toList then none else some true := by
  by_cases begins : a.toList <+: b.toList
  · rw [AnyDescriptor.recognize_of_shows (shows_choice_first form begins)]
    -- all of the word is shown if nothing is left of the second ending behind the first
    obtain ⟨rest, split⟩ := id begins
    have size : b.utf8ByteSize = a.utf8ByteSize + utf8Len rest := by
      rw [← String.utf8Len_toList b, ← split, String.utf8Len_append, String.utf8Len_toList]
    have same : a = b ↔ rest = [] := by
      rw [← String.toList_inj, ← split]
      simp
    simp [size, same, begins]
  · rw [AnyDescriptor.recognize_of_shows (shows_choice_second form begins)]
    have other : a ≠ b := fun same => begins (same ▸ List.prefix_rfl)
    have width : b.utf8ByteSize ≠ 0 := by
      rw [← String.utf8Len_toList]
      exact mt String.utf8Len_eq_zero.1 filled
    simp [other, begins, width]

end

/-- Patterns that spell out a plural are accepted and kept as they are, if they are not too long.

With two endings, the text with the first one is shown as a whole without a plural. The text with the
second one is shown as a whole, and the plural is that ending, unless the first one is a beginning
of it: then only as much is shown as with the first one, without a plural. So a registry that holds
nothing else finds the word with the second ending as a plural, or as a singular, if the two endings
are the same, or not at all, if the first one is a beginning of the second.

With one optional ending, the text with it is shown as a whole, and the plural is the ending; without
it, there is no plural. If the ending comes after going without it, it is never shown, unless nothing
may stand behind the match. -/
theorem explicit_plural_forms (q : Request) (s a b : String) (stem : Stem s) (plain : Plain a.toList)
    (ending : Ending b) (fits : q.Fits) :
    (q.pattern = s ++ "(" ++ a ++ "|(?<plural>" ++ b ++ "))" →
      ∃ d, q.build = .ok d ∧ d.source = q.pattern ∧
        d.Shows (s ++ a) ⟨0, (s ++ a).utf8ByteSize⟩ none ∧
        (¬ a.toList <+: b.toList →
          d.Shows (s ++ b) ⟨0, (s ++ b).utf8ByteSize⟩
            (some ⟨s.utf8ByteSize, (s ++ b).utf8ByteSize⟩)) ∧
        (a.toList <+: b.toList → d.Shows (s ++ b) ⟨0, (s ++ a).utf8ByteSize⟩ none) ∧
        ∀ r : Registry, r.byName = [(d.baseName, d)] →
          r.findWord? (s ++ b) =
            if a = b then some (d.baseName, false)
            else if a.toList <+: b.toList then none
            else some (d.baseName, true)) ∧
    (q.pattern = s ++ "(?<plural>" ++ b ++ ")?" →
      ∃ d, q.build = .ok d ∧ d.source = q.pattern ∧
        d.Shows (s ++ b) ⟨0, (s ++ b).utf8ByteSize⟩
          (some ⟨s.utf8ByteSize, (s ++ b).utf8ByteSize⟩) ∧
        d.Shows s ⟨0, s.utf8ByteSize⟩ none) ∧
    (q.pattern = s ++ "(?<plural>" ++ b ++ ")??" →
      ∃ d, q.build = .ok d ∧ d.source = q.pattern ∧
        d.Shows (s ++ b) ⟨0, s.utf8ByteSize⟩ none) ∧
    (q.pattern = "^" ++ s ++ "(?<plural>" ++ b ++ ")??$" →
      ∃ d, q.build = .ok d ∧ d.source = q.pattern ∧
        d.Shows (s ++ b) ⟨0, (s ++ b).utf8ByteSize⟩
          (some ⟨s.utf8ByteSize, (s ++ b).utf8ByteSize⟩) ∧
        d.Shows s ⟨0, s.utf8ByteSize⟩ none) := by
  have filled := ending.toList_ne_nil
  refine ⟨fun same => ?_, fun same => ?_, fun same => ?_, fun same => ?_⟩
  · obtain ⟨d, built, source, form⟩ :=
      build_of_kept ((congrArg String.toList same).trans (toList_choice s a b))
        (source_choice stem a.toList b.toList) fits (formOf_choice stem.plain plain ending.plain)
    refine ⟨d, built, source, shows_choice_first form List.prefix_rfl, shows_choice_second form,
      shows_choice_first form, fun r only => ?_⟩
    rw [Registry.findWord_of_only only, recognize_choice form filled]
    split_ifs <;> rfl
  · obtain ⟨d, built, source, form⟩ :=
      build_of_kept ((congrArg String.toList same).trans (toList_greedy s b))
        (source_optional stem b.toList true) fits
        (formOf_optional stem.plain ending.plain filled true)
    exact ⟨d, built, source, shows_greedy_taken form, shows_greedy_missed form filled⟩
  · obtain ⟨d, built, source, form⟩ :=
      build_of_kept ((congrArg String.toList same).trans (toList_lazy s b))
        (source_optional stem b.toList false) fits
        (formOf_optional stem.plain ending.plain filled false)
    exact ⟨d, built, source, shows_lazy form b⟩
  · obtain ⟨d, built, source, form⟩ :=
      build_of_kept ((congrArg String.toList same).trans (toList_anchored s b))
        (source_anchored stem b.toList) fits (formOf_anchored stem.plain ending.plain filled)
    exact ⟨d, built, source, shows_anchored_taken form filled, shows_anchored_missed form filled⟩

/-- A plural that shows, one that is lost to an empty ending before it, and an optional one that is
lost where going without it comes first, unless the match is to be the whole text. -/
theorem plurals_by_ending :
    (∃ d, Request.build ⟨"party", "part(y|(?<plural>ies))", .text, .textSlice, none, none, .new⟩ =
        .ok d ∧
      d.Shows "parties" ⟨0, 7⟩ (some ⟨4, 7⟩) ∧
      (Registry.empty.register d).findWord? "parties" = some ("party", true)) ∧
    (∃ d, Request.build ⟨"ox", "ox(|(?<plural>en))", .text, .textSlice, none, none, .new⟩ = .ok d ∧
      d.Shows "oxen" ⟨0, 2⟩ none ∧ (Registry.empty.register d).findWord? "oxen" = none) ∧
    (∃ d, Request.build ⟨"ox", "ox(?<plural>en)?", .text, .textSlice, none, none, .new⟩ = .ok d ∧
      d.Shows "oxen" ⟨0, 4⟩ (some ⟨2, 4⟩)) ∧
    (∃ d, Request.build ⟨"ox", "ox(?<plural>en)??", .text, .textSlice, none, none, .new⟩ = .ok d ∧
      d.Shows "oxen" ⟨0, 2⟩ none) ∧
    ∃ d, Request.build ⟨"ox", "^ox(?<plural>en)??$", .text, .textSlice, none, none, .new⟩ = .ok d ∧
      d.Shows "oxen" ⟨0, 4⟩ (some ⟨2, 4⟩) := by
  have part : Stem "part" := stem_of_cons rfl (by decide) (by decide +kernel)
  have ies : Ending "ies" := ⟨by decide, by decide +kernel⟩
  have ox : Stem "ox" := stem_of_cons rfl (by decide) (by decide +kernel)
  have en : Ending "en" := ⟨by decide, by decide +kernel⟩
  have nothing : Plain "".toList := by decide +kernel
  -- the form of each pattern is computed, which also shows that it stays within the limits
  let q (pattern : String) : Request := ⟨"ox", pattern, .text, .textSlice, none, none, .new⟩
  refine ⟨?_, ?_, ?_, ?_, ?_⟩
  · let q : Request := ⟨"party", "part(y|(?<plural>ies))", .text, .textSlice, none, none, .new⟩
    have compiled : Matcher.formOf? (normalize q.pattern.toList).source =
        .ok (.choice "part".toList "y".toList "ies".toList) := by decide +kernel
    have fits : q.Fits := Request.fits_of_form compiled
    obtain ⟨d, built, -, -, shown, -, found⟩ :=
      (explicit_plural_forms q "part" "y" "ies" part (by decide +kernel) ies fits).1
        (by decide +kernel)
    obtain ⟨matcher, -, rfl⟩ := build_eq_ok.1 built
    exact ⟨_, built, shown (by decide +kernel), found _ rfl⟩
  · have compiled : Matcher.formOf? (normalize (q "ox(|(?<plural>en))").pattern.toList).source =
        .ok (.choice "ox".toList "".toList "en".toList) := by decide +kernel
    have fits : (q "ox(|(?<plural>en))").Fits := Request.fits_of_form compiled
    obtain ⟨d, built, -, -, -, shown, found⟩ :=
      (explicit_plural_forms _ "ox" "" "en" ox nothing en fits).1 (by decide +kernel)
    obtain ⟨matcher, -, rfl⟩ := build_eq_ok.1 built
    exact ⟨_, built, shown (by decide +kernel), found _ rfl⟩
  · have compiled : Matcher.formOf? (normalize (q "ox(?<plural>en)?").pattern.toList).source =
        .ok (.led "ox".toList (.optional "en".toList true)) := by decide +kernel
    have fits : (q "ox(?<plural>en)?").Fits := Request.fits_of_form compiled
    obtain ⟨d, built, -, shown, -⟩ :=
      (explicit_plural_forms _ "ox" "" "en" ox nothing en fits).2.1 (by decide +kernel)
    exact ⟨d, built, shown⟩
  · have compiled : Matcher.formOf? (normalize (q "ox(?<plural>en)??").pattern.toList).source =
        .ok (.led "ox".toList (.optional "en".toList false)) := by decide +kernel
    have fits : (q "ox(?<plural>en)??").Fits := Request.fits_of_form compiled
    obtain ⟨d, built, -, shown⟩ :=
      (explicit_plural_forms _ "ox" "" "en" ox nothing en fits).2.2.1 (by decide +kernel)
    exact ⟨d, built, shown⟩
  · have compiled : Matcher.formOf? (normalize (q "^ox(?<plural>en)??$").pattern.toList).source =
        .ok (.anchored "ox".toList "en".toList) := by decide +kernel
    have fits : (q "^ox(?<plural>en)??$").Fits := Request.fits_of_form compiled
    obtain ⟨d, built, -, shown, -⟩ :=
      (explicit_plural_forms _ "ox" "" "en" ox nothing en fits).2.2.2 (by decide +kernel)
    exact ⟨d, built, shown⟩

end ScriptTypes
