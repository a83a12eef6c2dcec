import ScriptTypes.Proofs.Collections.Registry
import ScriptTypes.Proofs.Descriptor.Construction
import ScriptTypes.Proofs.Pattern.Showing

namespace ScriptTypes

open ScriptTypes.Pattern
open ScriptTypes.Plural

def Request.Fits (q : Request) : Prop :=
  Matcher.formOf? (normalize q.pattern.toList).source ≠ .error (.tooLarge weightLimit)

theorem Request.fits_of_form {q : Request} {form : Form}
    (compiled : Matcher.formOf? (normalize q.pattern.toList).source = .ok form) : q.Fits := by
  rw [Fits, compiled]
  exact fun absurd => nomatch absurd

namespace AnyDescriptor

/-- What a text shows: the extent of the first match, and that of the plural group in it. -/
def Shows (d : AnyDescriptor) (text : String) (whole : Extent) (plural : Option Extent) : Prop :=
  ∃ c, d.matcher.captures? groupName text = some c ∧ c.whole? = some whole ∧ c.named = plural

variable {d : AnyDescriptor} {text : String} {whole : Extent} {plural : Option Extent}

theorem shows_iff :
    d.Shows text whole plural ↔
      ∃ m, d.matcher.form.firstMatch? text.toList = some m ∧ m.extent = whole ∧
        (d.matcher.groupIndex? groupName).bind m.group? = plural := by
  have head (m : Match) :
      ((List.range d.matcher.groupNames.length).head?.map m.group?).join = some m.extent := by
    rw [← List.head?_map]
    exact Matcher.head_groups m (Matcher.groupNames_positive d.matcher)
  rw [Shows, Matcher.captures?]
  cases d.matcher.form.firstMatch? text.toList with
  | none => simp
  | some m => simp [Matcher.Captures.whole?, head]

theorem shows_of_first {index : Nat} {first : Match}
    (names : d.matcher.groupIndex? groupName = some index)
    (found : d.matcher.form.firstMatch? text.toList = some first) :
    d.Shows text first.extent (first.group? index) :=
  shows_iff.2 ⟨first, found, rfl, by rw [names]; rfl⟩

/-- A word is recognized if all of it is shown, as a plural if the plural group has some of it. -/
theorem recognize_of_shows (shows : d.Shows text whole plural) :
    d.recognize? text =
      if whole = ⟨0, text.utf8ByteSize⟩ then some (plural.any fun e => e.start ≠ e.stop)
      else none := by
  obtain ⟨m, found, rfl, rfl⟩ := shows_iff.1 shows
  rw [recognize?, found]

/-- A word is recognized exactly if the first match is all of it, and how is read off the group. -/
theorem recognize_eq_some {taken : Bool} :
    d.recognize? text = some taken ↔
      ∃ group, d.Shows text ⟨0, text.utf8ByteSize⟩ group ∧
        (group.any fun e => e.start ≠ e.stop) = taken := by
  constructor
  · intro recognized
    cases found : d.matcher.form.firstMatch? text.toList with
    | none =>
        rw [recognize?, found] at recognized
        cases recognized
    | some m =>
        have shows := shows_iff.2 ⟨m, found, rfl, rfl⟩
        rw [recognize_of_shows shows] at recognized
        split at recognized
        · rename_i all
          rw [all] at shows
          exact ⟨_, shows, Option.some_inj.1 recognized⟩
        · cases recognized
  · rintro ⟨group, shows, rfl⟩
    rw [recognize_of_shows shows, if_pos rfl]

theorem recognize_eq_none :
    d.recognize? text = none ↔ ∀ group, ¬ d.Shows text ⟨0, text.utf8ByteSize⟩ group := by
  rw [Option.eq_none_iff_forall_ne_some]
  constructor
  · intro missed group shows
    exact missed _ (recognize_eq_some.2 ⟨group, shows, rfl⟩)
  · intro missed taken recognized
    obtain ⟨group, shows, -⟩ := recognize_eq_some.1 recognized
    exact missed group shows

end AnyDescriptor

namespace Registry

/-- A registry that holds a descriptor finds a word by its name if it recognizes the word and no
entry with a smaller name does. -/
theorem findWord_of_held {r : Registry} {d : AnyDescriptor} {word : String} {plural : Bool}
    (sorted : r.byName.Sorted) (held : r.find? d.baseName = some d)
    (recognized : d.recognize? word = some plural) :
    r.findWord? word = some (d.baseName, plural) ↔
      ∀ name < d.baseName, ∀ e, r.find? name = some e → e.recognize? word = none := by
  rw [findWord_eq_some sorted]
  constructor
  · rintro ⟨_, -, -, unclaimed⟩
    exact unclaimed
  · exact fun unclaimed => ⟨d, held, recognized, unclaimed⟩

theorem findWord_of_only {r : Registry} {d : AnyDescriptor} (only : r.byName = [(d.baseName, d)])
    (word : String) : r.findWord? word = (d.recognize? word).map fun plural => (d.baseName, plural) := by
  rw [findWord?, only]
  exact List.findSome?_singleton

end Registry

end ScriptTypes
