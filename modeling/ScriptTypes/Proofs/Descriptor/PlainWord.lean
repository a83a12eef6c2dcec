import ScriptTypes.Proofs.Descriptor.Recognition
import ScriptTypes.Proofs.Pattern.Finding
import ScriptTypes.Proofs.Pattern.Spelling
import ScriptTypes.Proofs.Plural.Normalizing

namespace ScriptTypes

open ScriptTypes.Pattern
open ScriptTypes.Plural
open ScriptTypes.Text
open String (utf8Len)

/-- A text that can be the pattern for itself. -/
structure PlainWord (word : List Char) : Prop where
  filled : word ≠ []
  trimmed : Trimmed word
  plain : Plain word

namespace PlainWord

variable {word : List Char}

theorem hasGroup_eq_false (plain : PlainWord word) : hasGroup word = false := by
  refine Bool.eq_false_iff.2 fun found => ?_
  obtain ⟨u, v, rfl, -⟩ := (hasGroup_iff word).1 found
  exact plain.plain '(' (by simp [opener]) (by decide)

theorem source (plain : PlainWord word) : (normalize word).source = word ++ suffix := by
  rw [source_normalize, trimChars_of_trimmed plain.trimmed, plain.hasGroup_eq_false]
  rfl

end PlainWord

def wordForm (word : List Char) : Form := .led word (.mark 1 groupName false)

theorem captures_wordForm (word : List Char) :
    (wordForm word).captures = [(1, some groupName)] := by
  rw [wordForm, Form.captures_led]
  rfl

theorem takes_wordForm (word : List Char) : (wordForm word).Takes word :=
  Form.takes_marked word 1 groupName

section

variable {m : Matcher} {word : List Char} (form : m.form = wordForm word)
include form

theorem groupNames_of_wordForm : m.groupNames = [none, some groupName] := by
  rw [groupNames_eq, form, captures_wordForm]
  rfl

theorem groupIndex_of_wordForm : m.groupIndex? groupName = some 1 := by
  rw [Matcher.groupIndex?, groupNames_of_wordForm form]
  rfl

theorem captures_of_wordForm (text : String) :
    m.captures? groupName text = (m.form.firstMatch? text.toList).map fun first =>
      { groups := [some first.extent, first.groups.lookup 1]
        named := first.groups.lookup 1
        all := (m.form.allMatches text.toList).map (·.extent) } := by
  rw [Matcher.captures?, groupIndex_of_wordForm form, groupNames_of_wordForm form]
  rfl

theorem captures_isSome_of_wordForm (text : String) :
    (m.captures? groupName text).isSome ↔ word <:+: text.toList := by
  rw [captures_of_wordForm form, Option.isSome_map, form]
  exact (takes_wordForm word).firstMatch_isSome text.toList

theorem captured_of_wordForm {text : String} {c : Matcher.Captures}
    (shown : m.captures? groupName text = some c) :
    c.named = none ∧ ∃ front back, FirstAt word text.toList front back ∧
      c.groups = [some ⟨utf8Len front, utf8Len front + utf8Len word⟩, none] := by
  have takes := takes_wordForm word
  rw [captures_of_wordForm form, form, Option.map_eq_some_iff] at shown
  obtain ⟨first, found, rfl⟩ := shown
  have occurs := (takes.firstMatch_isSome text.toList).1 (by rw [found]; rfl)
  obtain ⟨front, back, at_front⟩ := exists_firstAt occurs
  rw [takes.firstMatch at_front] at found
  cases found
  exact ⟨rfl, front, back, at_front, rfl⟩

end

theorem recognize_of_wordForm {d : AnyDescriptor} {word : String}
    (form : d.matcher.form = wordForm word.toList) : d.recognize? word = some false := by
  have found := (takes_wordForm word.toList).firstMatch (firstAt_start word.toList [])
  rw [List.append_nil, String.utf8Len_toList, ← form] at found
  have shows := AnyDescriptor.shows_of_first (groupIndex_of_wordForm form) found
  rw [AnyDescriptor.recognize_of_shows shows, if_pos (by simp)]
  rfl

/-- A plain word that is not too long makes a descriptor with one group besides the whole match, its
plural group. It shows something of a text exactly if the word occurs there: the extent of its first
occurrence and no plural. Its matches are the occurrences of the word, each the first one behind the
one before. A registry that holds the descriptor finds the word by its name and as a singular,
unless an entry with a smaller name recognizes the word. -/
theorem plain_words_match_themselves (q : Request) (plain : PlainWord q.pattern.toList)
    (fits : q.Fits) :
    ∃ d, q.build = .ok d ∧ d.matcher.groupNames = [none, some groupName] ∧
      (∀ text : String,
        ((d.matcher.captures? groupName text).isSome ↔ q.pattern.toList <:+: text.toList) ∧
        (∀ c, d.matcher.captures? groupName text = some c → c.named = none ∧
          ∃ front back, FirstAt q.pattern.toList text.toList front back ∧
            c.groups = [some ⟨utf8Len front, utf8Len front + q.pattern.utf8ByteSize⟩, none]) ∧
        ∃ starts, Occurrences q.pattern.toList 0 text.toList starts ∧
          (d.matcher.form.allMatches text.toList).map (·.extent) =
            starts.map fun n => ⟨n, n + q.pattern.utf8ByteSize⟩) ∧
      ∀ history : List AnyDescriptor, ∀ r, r = (Registry.empty.registerAll history).2 →
        r.find? d.baseName = some d →
          (r.findWord? q.pattern = some (d.baseName, false) ↔
            ∀ name < d.baseName, ∀ e, r.find? name = some e → e.recognize? q.pattern = none) := by
  have compiled : Matcher.formOf? (normalize q.pattern.toList).source =
      .ok (wordForm q.pattern.toList) := by
    rw [Request.Fits] at fits
    rw [plain.source] at fits ⊢
    exact formOf_suffixed plain.plain fits
  have size : utf8Len q.pattern.toList = q.pattern.utf8ByteSize := String.utf8Len_toList q.pattern
  let d := q.describe ⟨normalizedSource q.pattern, wordForm q.pattern.toList⟩
  have form : d.matcher.form = wordForm q.pattern.toList := rfl
  rw [← size]
  refine ⟨d, build_of_form compiled, groupNames_of_wordForm form, fun text => ⟨?_, ?_, ?_⟩, ?_⟩
  · exact captures_isSome_of_wordForm form text
  · exact fun c shown => captured_of_wordForm form shown
  · rw [form]
    exact (takes_wordForm q.pattern.toList).allMatches plain.filled text.toList
  · rintro history r rfl held
    have sorted := (Registry.records_all history).sorted
    exact Registry.findWord_of_held sorted held (recognize_of_wordForm form)

/-- A word of two-byte characters, in a text in which it overlaps itself. -/
theorem echo_finds_itself :
    ∃ d, Request.build ⟨"echo", "éé", .text, .textSlice, none, none, .new⟩ = .ok d ∧
      (d.matcher.captures? groupName "ééé").isSome ∧
      (Registry.empty.register d).findWord? "éé" = some ("echo", false) := by
  let q : Request := ⟨"echo", "éé", .text, .textSlice, none, none, .new⟩
  have trimmed : Trimmed "éé".toList := by
    refine ⟨?_, ?_⟩
    · intro c first
      cases first
      decide
    · intro c last
      cases last
      decide
  have plain : PlainWord q.pattern.toList := ⟨by decide +kernel, trimmed, by decide +kernel⟩
  have compiled : Matcher.formOf? (normalize q.pattern.toList).source =
      .ok (.seq (.literal ['é', 'é']) (.mark 1 groupName false)) := by decide +kernel
  have fits : q.Fits := Request.fits_of_form compiled
  obtain ⟨d, built, -, shown, found⟩ := plain_words_match_themselves q plain fits
  obtain ⟨matcher, -, rfl⟩ := build_eq_ok.1 built
  refine ⟨_, built, (shown "ééé").1.2 (by decide +kernel), (found [_] _ rfl rfl).2 ?_⟩
  -- there is no other entry
  intro name smaller e held
  change SortedMap.get? [(_, _)] name = some e at held
  rw [SortedMap.get_cons, if_neg smaller.ne] at held
  cases held

end ScriptTypes
