import ScriptTypes.Proofs.Descriptor.Construction
import ScriptTypes.Proofs.Pattern.Suffix

namespace ScriptTypes

open ScriptTypes.Pattern
open ScriptTypes.Plural

namespace Pattern

theorem formOf_eq_ok {text : List Char} {form : Form} :
    Matcher.formOf? text = .ok form ↔
      ∃ e flags, Expr.ofText? text = .ok e ∧ e.form {} = .ok (form, flags) ∧ form.fits := by
  unfold Matcher.formOf?
  cases spelled : Expr.ofText? text with
  | error fault => simp [bind, Except.bind]
  | ok e =>
      cases meant : e.form {} with
      | error fault => simp [bind, Except.bind, meant]
      | ok result =>
          obtain ⟨form', flags⟩ := result
          by_cases fits : form'.fits = true
          · simp [bind, Except.bind, meant, fits]
            intro same
            subst same
            exact fits
          · simp [bind, Except.bind, meant, fits]
            intro same
            subst same
            exact Bool.not_eq_true _ ▸ fits

theorem formOf_of_fault {text : List Char} {fault : Fault}
    (faulty : Expr.ofText? text = .error fault) :
    Matcher.formOf? text = .error (.invalid fault) := by
  rw [Matcher.formOf?, faulty]
  rfl

/-- A second group named `plural` is refused where its name ends. -/
theorem suffix_collides {text : List Char} {e : Expr} (spelled : Expr.ofText? text = .ok e)
    (named : groupName ∈ namesOf e.groups) (awake : endsInComment text = false) :
    ∃ place earlier, Expr.ofText? (text ++ suffix) =
      .error ⟨.groupNameDuplicate, suffixName place, some earlier⟩ := by
  obtain ⟨r, s, reads⟩ := reads_ofText spelled
  have awake_r : r.inComment = false := by
    rw [endsInComment, reads.read] at awake
    exact awake
  cases taken : s.names.lookup groupName with
  | none =>
      rw [reads.groups] at named
      exact absurd named ((reads.counted.lookup_eq_none groupName).1 taken)
  | some earlier =>
      refine ⟨s.position, earlier, ?_⟩
      rw [Expr.ofText?, Reader.run_append Reader.suffix_completes_nothing, reads.read]
      simp only [Except.bind, bind]
      rw [Reader.run_suffix reads.settled reads.ready awake_r, taken]

end Pattern

theorem normalizedSource_of_missed {pattern : String}
    (missed : hasGroup (Text.trimChars pattern.toList) = false) :
    normalizedSource pattern = .ofList (Text.trimChars pattern.toList ++ suffix) := by
  simp [normalizedSource, Plural.normalize, missed, Normalized.source]

theorem normalizedSource_of_found {pattern : String}
    (found : hasGroup (Text.trimChars pattern.toList) = true) :
    normalizedSource pattern = .ofList (Text.trimChars pattern.toList) := by
  simp [normalizedSource, Plural.normalize, found, Normalized.source]

/-- A pattern with a plural group of its own is never shadowed. If the group is not found, as when
it is spelled another way, the suffix collides with it and the request fails for the second name;
if one is found and the pattern is valid, the request succeeds with the pattern as it stands. -/
theorem undetected_group_collides (q : Request) (form : Form)
    (valid : Matcher.formOf? q.trimmed = .ok form) :
    (∀ e, Expr.ofText? q.trimmed = .ok e → groupName ∈ namesOf e.groups →
      hasGroup q.trimmed = false → endsInComment q.trimmed = false →
      ∃ place earlier, q.build = .error ⟨q.baseName, .ofList (q.trimmed ++ suffix),
        .invalid ⟨.groupNameDuplicate, suffixName place, some earlier⟩⟩) ∧
    (hasGroup q.trimmed = true →
      ∃ d, q.build = .ok d ∧ d.source = .ofList q.trimmed ∧ d.matcher.form = form) := by
  refine ⟨?_, ?_⟩
  · intro e spelled named missed awake
    -- the second group is read before anything is compiled, so that no limit comes first
    obtain ⟨place, earlier, faulty⟩ := suffix_collides spelled named awake
    have source : (normalize q.pattern.toList).source = q.trimmed ++ suffix := by
      rw [← toList_normalizedSource, normalizedSource_of_missed missed, String.toList_ofList]
      rfl
    have refused := formOf_of_fault faulty
    rw [← source] at refused
    refine ⟨place, earlier, ?_⟩
    rw [build_eq_map, compile_eq_error refused, normalizedSource_of_missed missed]
    rfl
  · intro found
    have source : (normalize q.pattern.toList).source = q.trimmed := by
      rw [← toList_normalizedSource, normalizedSource_of_found found, String.toList_ofList]
      rfl
    have compiled : compile q.baseName q.pattern = .ok ⟨normalizedSource q.pattern, form⟩ := by
      rw [compile_eq_ok, source]
      exact ⟨rfl, valid⟩
    refine ⟨_, build_eq_ok.2 ⟨_, compiled, rfl⟩, ?_, rfl⟩
    exact normalizedSource_of_found found

/-- The other spelling of a named group is valid and not found. -/
theorem other_spelling_collides :
    ∃ place earlier,
      Request.build ⟨"item", "item(?P<plural>s)", .text, .textSlice, none, none, .new⟩ =
        .error ⟨"item", "item(?P<plural>s)(?<plural>)??",
          .invalid ⟨.groupNameDuplicate, suffixName place, some earlier⟩⟩ := by
  let q : Request := ⟨"item", "item(?P<plural>s)", .text, .textSlice, none, none, .new⟩
  have trimmed : q.trimmed = "item(?P<plural>s)".toList := by decide +kernel
  have valid : Matcher.formOf? "item(?P<plural>s)".toList =
      .ok (.seq (.literal ['i', 't', 'e', 'm'])
        (.capture 1 (some "plural") (.literal ['s']))) := by decide +kernel
  have names : (Expr.ofText? "item(?P<plural>s)".toList).map (fun e => namesOf e.groups) =
      .ok ["plural"] := by decide +kernel
  have source : String.ofList (q.trimmed ++ suffix) = "item(?P<plural>s)(?<plural>)??" := by
    decide +kernel
  obtain ⟨e, -, spelled, -, -⟩ := formOf_eq_ok.1 valid
  rw [spelled] at names
  have named : groupName ∈ namesOf e.groups := by
    have alone : namesOf e.groups = ["plural"] := Except.ok.inj names
    rw [alone]
    exact List.mem_singleton_self groupName
  rw [← trimmed] at valid spelled
  have missed : hasGroup q.trimmed = false := by decide +kernel
  have awake : endsInComment q.trimmed = false := by decide +kernel
  rw [← source]
  exact (undetected_group_collides q _ valid).1 e spelled named missed awake

end ScriptTypes
