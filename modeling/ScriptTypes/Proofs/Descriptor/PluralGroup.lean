import ScriptTypes.Proofs.Descriptor.Collision
import ScriptTypes.Proofs.Pattern.Appending
import ScriptTypes.Proofs.Pattern.Listing

namespace ScriptTypes

open ScriptTypes.Pattern
open ScriptTypes.Plural

namespace Pattern

theorem lasting_close (s : Sequence) (stop : Text.Position) :
    (s.close stop).lasting = Expr.allLasting s.parts.reverse := by
  unfold Sequence.close
  split <;> rename_i parts
  · rw [parts]
    rfl
  · rw [parts]
    exact (allLasting_singleton _).symm
  · rfl

theorem lasting_closeLevel (branches : Option Branches) (last : Sequence) (stop : Text.Position) :
    (closeLevel branches last stop).lasting =
      (branches.elim [] fun b => Expr.allLasting b.done.reverse) ++
        Expr.allLasting last.parts.reverse := by
  cases branches with
  | none => exact lasting_close last stop
  | some b => simp [closeLevel, Expr.lasting, lasting_close]

theorem lasting_suffixItem (p : Text.Position) (index : Nat) :
    (suffixItem p index).lasting = [(index, some groupName)] := by
  simp [suffixItem, suffixGroup, Expr.lasting]

theorem lasting_takesSuffix {r s : Reader} {e : Expr} (takes : Reader.TakesSuffix r s e) :
    e.lasting = (closeLevel s.branches s.sequence s.position).lasting ++
      [(s.captures + 1, some groupName)] := by
  rw [takes.spelled, lasting_closeLevel, lasting_closeLevel, List.append_assoc]
  simp [Sequence.push, lasting_suffixItem]

end Pattern

/-- How many groups a descriptor has that are named `plural`. There is one if its source opens one
outside all repetitions of no turns, else there is none. There is one for every pattern in which
no plural group was found and which does not end inside a comment or in a backslash that takes
the parenthesis of the suffix. -/
theorem plural_group_count (q : Request) (d : AnyDescriptor) (built : q.build = .ok d) :
    (∃ e, Expr.ofText? d.source.toList = .ok e ∧
      d.matcher.groupNames.count (some groupName) =
        if groupName ∈ namesOf e.lasting then 1 else 0) ∧
    (hasGroup q.trimmed = false → endsInComment q.trimmed = false →
      endsInEscape q.trimmed = false → d.matcher.groupNames.count (some groupName) = 1) := by
  obtain ⟨matcher, compiled, rfl⟩ := build_eq_ok.1 built
  obtain ⟨source, valid⟩ := compile_eq_ok.1 compiled
  have listed_source : matcher.source.toList = (normalize q.pattern.toList).source := by
    rw [source, toList_normalizedSource]
  rw [← listed_source] at valid
  obtain ⟨e, flags, spelled, meant, -⟩ := formOf_eq_ok.1 valid
  have counted := count_groupNames spelled meant groupName
  refine ⟨⟨e, spelled, counted⟩, ?_⟩
  intro missed awake done
  have extended : matcher.source.toList = q.trimmed ++ suffix := by
    rw [source, normalizedSource_of_missed missed, String.toList_ofList]
    rfl
  rw [extended] at spelled
  have meaningful : ¬ e.Meaningless := fun hopeless => hopeless {} _ meant
  obtain ⟨r, s, -, takes⟩ := ofText_suffix spelled meaningful awake done
  have named : groupName ∈ namesOf e.lasting := by
    rw [mem_namesOf, lasting_takesSuffix takes]
    exact ⟨s.captures + 1, by simp⟩
  rw [if_pos named] at counted
  exact counted

theorem item_has_plural_group :
    ∃ d, Request.build ⟨"item", "item", .text, .textSlice, none, none, .new⟩ = .ok d ∧
      d.matcher.groupNames.count (some groupName) = 1 := by
  let q : Request := ⟨"item", "item", .text, .textSlice, none, none, .new⟩
  have compiled : compile "item" "item" = .ok ⟨"item(?<plural>)??",
      .seq (.literal ['i', 't', 'e', 'm'])
        (.repetition 0 (some 1) false (.capture 1 (some "plural") .empty))⟩ := by decide +kernel
  have built := build_eq_ok (q := q).2 ⟨_, compiled, rfl⟩
  have missed : hasGroup q.trimmed = false := by decide +kernel
  have awake : endsInComment q.trimmed = false := by decide +kernel
  have done : endsInEscape q.trimmed = false := by decide +kernel
  exact ⟨_, built, (plural_group_count q _ built).2 missed awake done⟩

/-- In brackets an opener is a set of characters, but it is found all the same. -/
theorem bracketed_opener_has_no_group :
    ∃ d, Request.build ⟨"t", "[(?<plural>]", .text, .textSlice, none, none, .new⟩ = .ok d ∧
      d.matcher.groupNames = [none] := by
  let q : Request := ⟨"t", "[(?<plural>]", .text, .textSlice, none, none, .new⟩
  have compiled : (compile "t" "[(?<plural>]").map Matcher.groupNames = .ok [none] := by decide +kernel
  obtain ⟨matcher, outcome, names⟩ := exists_of_map_eq_ok compiled
  exact ⟨_, build_eq_ok (q := q).2 ⟨matcher, outcome, rfl⟩, names⟩

end ScriptTypes
