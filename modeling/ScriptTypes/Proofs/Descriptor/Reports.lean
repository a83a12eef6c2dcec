import ScriptTypes.Proofs.Descriptor.Construction
import ScriptTypes.Trace

/-!
What the construction of a descriptor reports, and to whom. The reports follow the outcome, and a
subscriber who sees less gets the same reports with some left out; the outcome is the same for all.
-/

namespace ScriptTypes

namespace Trace

open ScriptTypes.Plural
open ScriptTypes.Text (trimChars)

/-- The level of a record. The one span there is has the most verbose level, and so have entering and
leaving it. -/
def Record.level : Record → Level
  | span _ level _ => level
  | event level _ _ => level
  | _ => .trace

def Verbosity.spanOf (v : Verbosity) (inSpan : Option String) : Option String :=
  if v.sees .trace then inSpan else none

theorem Verbosity.spanOf_of_seen {v : Verbosity} (seen : v.sees .trace = true)
    (inSpan : Option String) : v.spanOf inSpan = inSpan := if_pos seen

theorem Verbosity.spanOf_of_unseen {v : Verbosity} (unseen : ¬ v.sees .trace = true)
    (inSpan : Option String) : v.spanOf inSpan = none := if_neg unseen

theorem Verbosity.spanOf_none (v : Verbosity) : v.spanOf none = none := ite_self none

def Record.shownTo (v : Verbosity) (r : Record) : Option Record :=
  if v.sees r.level then
    some (match r with
      | event level inSpan fields => .event level (v.spanOf inSpan) fields
      | r => r)
  else none

theorem sees_all (level : Level) : Verbosity.sees (some .trace) level = true := by
  cases level <;> rfl

/-- An act with one outcome for all subscribers, of whose reports each gets what is shown to it. -/
structure Reporting.Impartial {α : Type} (act : Reporting α) : Prop where
  outcome : ∀ v inSpan, (act v (v.spanOf inSpan)).1 = (act (some .trace) inSpan).1
  records : ∀ v inSpan,
    (act v (v.spanOf inSpan)).2 = (act (some .trace) inSpan).2.filterMap (Record.shownTo v)

namespace Reporting

variable {α β : Type}

theorem impartial_pure (a : α) : Impartial (pure a) where
  outcome := fun _ _ => rfl
  records := fun _ _ => rfl

theorem Impartial.bind {act : Reporting α} {next : α → Reporting β} (first : act.Impartial)
    (later : ∀ a, (next a).Impartial) : Impartial (act >>= next) where
  outcome := by
    intro v inSpan
    have same := first.outcome v inSpan
    change (next (act v (v.spanOf inSpan)).1 v (v.spanOf inSpan)).1 =
      (next (act (some .trace) inSpan).1 (some .trace) inSpan).1
    rw [same]
    exact (later _).outcome v inSpan
  records := by
    intro v inSpan
    have same := first.outcome v inSpan
    change (act v (v.spanOf inSpan)).2 ++ (next (act v (v.spanOf inSpan)).1 v (v.spanOf inSpan)).2 =
      ((act (some .trace) inSpan).2 ++
        (next (act (some .trace) inSpan).1 (some .trace) inSpan).2).filterMap (Record.shownTo v)
    rw [same, List.filterMap_append, first.records, (later _).records]

theorem impartial_event (level : Level) (fields : List (String × String)) :
    (event level fields).Impartial where
  outcome := fun _ _ => rfl
  records := by
    intro v inSpan
    simp only [event, sees_all, if_true]
    by_cases seen : v.sees level = true
    · simp [Record.shownTo, Record.level, seen]
    · simp [Record.shownTo, Record.level, seen]

/-- A subscriber that does not see the span gets what it would get within it, but for the name. -/
theorem Impartial.withSpan {act : Reporting α} (inner : act.Impartial) (name : String)
    (fields : List (String × String)) : (withSpan name .trace fields act).Impartial where
  outcome := by
    intro v inSpan
    have same := inner.outcome v (some name)
    by_cases seen : v.sees .trace = true
    · rw [Verbosity.spanOf_of_seen seen] at same
      simp [Reporting.withSpan, sees_all, seen, same]
    · rw [Verbosity.spanOf_of_unseen seen] at same
      simp [Reporting.withSpan, sees_all, seen, Verbosity.spanOf_of_unseen, same]
  records := by
    intro v inSpan
    have same := inner.records v (some name)
    by_cases seen : v.sees .trace = true
    · rw [Verbosity.spanOf_of_seen seen] at same
      simp [Reporting.withSpan, sees_all, seen, same, Record.shownTo, Record.level]
    · -- the records of the span itself are dropped, and within it there is no name to be read
      rw [Verbosity.spanOf_of_unseen seen] at same
      simp [Reporting.withSpan, sees_all, seen, Verbosity.spanOf_of_unseen, same, Record.shownTo,
        Record.level]

end Reporting

theorem impartial_reportExtension (normalized : Plural.Normalized) :
    (reportExtension normalized).Impartial := by
  unfold reportExtension
  split
  · exact Reporting.impartial_pure _
  · exact Reporting.impartial_event _ _

theorem impartial_reportingSource (baseName source : String) :
    (reportingSource baseName source).Impartial := by
  unfold reportingSource
  split
  · exact Reporting.impartial_pure _
  · exact (Reporting.impartial_event _ _).bind fun _ => Reporting.impartial_pure _

theorem impartial_reportingCompile (baseName pattern : String) :
    (reportingCompile baseName pattern).Impartial :=
  Reporting.Impartial.withSpan
    ((impartial_reportExtension _).bind fun _ => impartial_reportingSource _ _) _ _

theorem reportingCompile_trace (baseName pattern : String) :
    reportingCompile baseName pattern (some .trace) none =
      (compile baseName pattern,
        [.span spanName .trace [("base_name", baseName)], .enter] ++
        ((if hasGroup (trimChars pattern.toList) then []
          else [.event .trace (some spanName)
            [("message", "appended plural group"), ("normalized", normalizedSource pattern)]]) ++
        (match compile baseName pattern with
          | .ok _ => []
          | .error e => [.event .debug (some spanName)
            [("message", "rejected type pattern"), ("source", e.pattern), ("error", e.source)]])) ++
        [.exit, .close]) := by
  have kept : (normalize pattern.toList).isKept = hasGroup (trimChars pattern.toList) := by
    simp only [Plural.normalize]
    cases hasGroup (trimChars pattern.toList) <;> rfl
  have extension : reportExtension (normalize pattern.toList) (some .trace) (some spanName) =
      ((), if hasGroup (trimChars pattern.toList) then []
        else [.event .trace (some spanName)
          [("message", "appended plural group"), ("normalized", normalizedSource pattern)]]) := by
    rw [reportExtension, kept]
    split <;> rfl
  have source : reportingSource baseName (normalizedSource pattern) (some .trace) (some spanName) =
      (compile baseName pattern, match compile baseName pattern with
        | .ok _ => []
        | .error e => [.event .debug (some spanName)
          [("message", "rejected type pattern"), ("source", e.pattern), ("error", e.source)]]) := by
    rw [reportingSource, compile]
    cases Pattern.Matcher.ofSource? (normalizedSource pattern) <;> rfl
  simp only [reportingCompile, Reporting.withSpan, sees_all, if_true, bind, extension]
  rw [← normalizedSource, source]

end Trace

open ScriptTypes.Trace
open ScriptTypes.Plural

def Request.reportingBuild (q : Request) : Reporting (Except PatternError AnyDescriptor) := do
  return (← reportingCompile q.baseName q.pattern).map q.describe

/-- The reports of a construction mirror its outcome. To the most verbose subscriber they are the
span, with the name; the suffix, if no plural group was found in the trimmed pattern; and the
refusal, if the pattern was refused, with the same source and the same fault as the error that is
returned. Any other subscriber gets the records up to its level out of these, and does not read of a
span that it does not see. Whoever subscribes, the outcome is the same. -/
theorem construction_reports (q : Request) :
    recordsOf (some .trace) q.baseName q.pattern =
      [.span "compile" .trace [("base_name", q.baseName)], .enter] ++
        ((if hasGroup q.trimmed then []
          else [.event .trace (some "compile")
            [("message", "appended plural group"), ("normalized", normalizedSource q.pattern)]]) ++
        (match q.build with
          | .ok _ => []
          | .error e => [.event .debug (some "compile")
            [("message", "rejected type pattern"), ("source", e.pattern), ("error", e.source)]])) ++
        [.exit, .close] ∧
    (∀ e, q.build = .error e →
      e.baseName = q.baseName ∧ e.pattern = normalizedSource q.pattern) ∧
    ∀ v : Verbosity,
      recordsOf v q.baseName q.pattern =
        (recordsOf (some .trace) q.baseName q.pattern).filterMap (Record.shownTo v) ∧
      q.reportingBuild v none = (q.build, recordsOf v q.baseName q.pattern) := by
  have full := reportingCompile_trace q.baseName q.pattern
  have impartial := impartial_reportingCompile q.baseName q.pattern
  have outcome (v : Verbosity) :
      (reportingCompile q.baseName q.pattern v none).1 = compile q.baseName q.pattern := by
    have same := impartial.outcome v none
    rwa [v.spanOf_none, full] at same
  refine ⟨?_, fun e refused => ?_, fun v => ⟨?_, ?_⟩⟩
  · rw [recordsOf, full, build_eq_map]
    cases compile q.baseName q.pattern <;> rfl
  · rw [build_eq_map, compile_eq] at refused
    cases compiled : Pattern.Matcher.formOf? (normalize q.pattern.toList).source <;>
      rw [compiled] at refused <;> cases refused
    exact ⟨rfl, rfl⟩
  · have same := impartial.records v none
    rwa [v.spanOf_none] at same
  · have whole : q.reportingBuild v none =
        ((reportingCompile q.baseName q.pattern v none).1.map q.describe,
          recordsOf v q.baseName q.pattern ++ []) := rfl
    rw [whole, outcome, build_eq_map, List.append_nil]

end ScriptTypes
