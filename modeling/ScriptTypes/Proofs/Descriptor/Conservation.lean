import ScriptTypes.Proofs.Descriptor.PluralGroup
import ScriptTypes.Proofs.Pattern.Commented
import ScriptTypes.Proofs.Pattern.Conserving
import ScriptTypes.Proofs.Pattern.Showing

/-!
What a descriptor recognizes is what its pattern matches. The suffix that is put behind a pattern
without a plural group adds that group to its list and changes nothing of its matches, unless the
pattern is an alternation that begins with its last branch all over.
-/

namespace ScriptTypes

open ScriptTypes.Pattern
open ScriptTypes.Plural

namespace Pattern

def Rejection.isLimit : Rejection → Bool
  | tooLarge _ => true
  | invalid fault =>
    match fault.cause with
    | .tooDeep _ => true
    | _ => false

theorem formOf_within {text : List Char} {e : Expr} {form : Form} {after : Flags}
    (spelled : Expr.ofText? text = e.checked) (meant : e.form {} = .ok (form, after))
    (within : ∀ rejection, Matcher.formOf? text = .error rejection → rejection.isLimit = false) :
    Expr.ofText? text = .ok e ∧ Matcher.formOf? text = .ok form := by
  have shallow : Expr.ofText? text = .ok e := by
    cases deep : e.tooDeep? 0 with
    | none => rw [spelled, Expr.checked, deep]
    | some span =>
        have faulty : Expr.ofText? text = .error ⟨.tooDeep depthLimit, span, none⟩ := by
          rw [spelled, Expr.checked, deep]
        exact absurd (within _ (formOf_of_fault faulty)) (by simp [Rejection.isLimit])
  refine ⟨shallow, ?_⟩
  cases fits : form.fits with
  | true => exact formOf_eq_ok.2 ⟨e, after, shallow, meant, fits⟩
  | false =>
      have large : Matcher.formOf? text = .error (.tooLarge weightLimit) := by
        rw [Matcher.formOf?, shallow]
        simp [bind, Except.bind, meant, fits]
      exact absurd (within _ large) (by simp [Rejection.isLimit])

theorem ofSource_eq_ok {source : String} {m : Matcher} :
    Matcher.ofSource? source = .ok m ↔
      m.source = source ∧ Matcher.formOf? source.toList = .ok m.form := by
  obtain ⟨own, form⟩ := m
  rw [Matcher.ofSource?]
  cases Matcher.formOf? source.toList with
  | error rejection => simp [bind, Except.bind]
  | ok read => simp [bind, Except.bind, pure, Except.pure, eq_comm]

theorem suffix_form {text : List Char} {e extended : Expr} {r s : Reader} {form : Form}
    {after : Flags} (reads : Reads text r s e) (takes : Reader.TakesSuffix r s extended)
    (spelled : Expr.ofText? text = .ok e) (meant : e.form {} = .ok (form, after)) :
    ∃ more, extended.form {} = .ok (more, after) ∧ Form.Extends (s.captures + 1) form more ∧
      ((∀ last, e.Restarts last → last.EndsOnce) → Form.Agree (s.captures + 1) form more) := by
  have fresh : s.captures + 1 ∉ form.indices := by
    intro member
    obtain ⟨g, captured, index⟩ := List.mem_map.1 member
    have opened := (lasting_sublist e).subset ((mem_captures_form e meant g).1 captured)
    have bounded := (numbered_ofText spelled).bounded opened
    rw [reads.counted.captures, ← reads.groups] at index
    omega
  rw [reads.spelled] at meant ⊢
  rw [takes.spelled]
  exact conserving meant fresh s.position _

theorem unlisted {text : List Char} {e : Expr} {f after : Flags} {m : Matcher} {name : String}
    (spelled : Expr.ofText? text = .ok e) (meant : e.form f = .ok (m.form, after))
    (unnamed : name ∉ namesOf e.groups) : some name ∉ m.groupNames := by
  have dropped : name ∉ namesOf e.lasting :=
    fun named => unnamed (((lasting_sublist e).filterMap _).subset named)
  have counted := count_groupNames spelled meant name
  rw [if_neg dropped] at counted
  exact List.count_eq_zero.1 counted

/-- The list of groups with the suffix is that without it and one more, behind a gap for the groups
at the end that are dropped. -/
theorem groupNames_takesSuffix {text more : List Char} {e extended : Expr} {r s : Reader}
    {f after last : Flags} {alone m : Matcher} (reads : Reads text r s e)
    (takes : Reader.TakesSuffix r s extended) (spelled : Expr.ofText? text = .ok e)
    (meant : e.form f = .ok (alone.form, after)) (spelled_more : Expr.ofText? more = .ok extended)
    (meant_more : extended.form f = .ok (m.form, last)) :
    ∃ missing, alone.groupNames.length + missing = s.captures + 1 ∧
      m.groupNames = alone.groupNames ++ List.replicate missing none ++ [some groupName] := by
  have behind : ∀ g ∈ e.lasting, g.1 < s.captures + 1 := by
    intro g member
    have bounded := (numbered_ofText spelled).bounded ((lasting_sublist e).subset member)
    rw [reads.counted.captures, ← reads.groups]
    omega
  have below : lastIndex e.lasting ≤ s.captures :=
    (lastIndex_le_iff _ _).2 fun g member => Nat.le_of_lt_succ (behind g member)
  have listed_alone := groupNames_ofText spelled meant
  have lasting : extended.lasting = e.lasting ++ [(s.captures + 1, some groupName)] := by
    rw [lasting_takesSuffix takes, reads.spelled]
  refine ⟨s.captures + 1 - alone.groupNames.length, ?_, ?_⟩
  · rw [listed_alone]
    simp only [listed, List.length_cons, List.length_map, List.length_range]
    omega
  · rw [groupNames_ofText spelled_more meant_more, lasting, listed_concat behind (Nat.succ_pos _),
      ← listed_alone]

end Pattern

theorem build_of_missed {q : Request} {form : Form} (missed : hasGroup q.trimmed = false)
    (compiled : Matcher.formOf? (q.trimmed ++ suffix) = .ok form) :
    q.build = .ok (q.describe ⟨.ofList (q.trimmed ++ suffix), form⟩) :=
  build_of_accepted (normalizedSource_of_missed missed) compiled

/-- The suffix is conservative. A pattern that is valid by itself, has no group named `plural`, and
stays within the limits makes a descriptor. If it ends inside a comment, the descriptor shows of
every text what the pattern shows. Else it has one more group, which is named `plural`, behind all
that the pattern opens; its first match begins where that of the pattern does, and the plural group
takes nothing, at the end. It shows the same groups and the same matches, unless the pattern is an
alternation all of whose branches begin with the last one, which can end in several places. -/
theorem suffix_conserves (q : Request) (alone : Matcher) (e : Expr)
    (valid : Matcher.ofSource? (.ofList q.trimmed) = .ok alone)
    (spelled : Expr.ofText? q.trimmed = .ok e) (unnamed : groupName ∉ namesOf e.groups)
    (missed : hasGroup q.trimmed = false)
    (within : ∀ rejection, Matcher.formOf? (q.trimmed ++ suffix) = .error rejection →
      rejection.isLimit = false) :
    ∃ d, q.build = .ok d ∧ d.source = .ofList (q.trimmed ++ suffix) ∧
      (endsInComment q.trimmed = true →
        d.matcher.groupNames = alone.groupNames ∧
          ∀ name text, d.matcher.captures? name text = alone.captures? name text) ∧
      (endsInComment q.trimmed = false →
        ∃ missing, alone.groupNames.length + missing = e.groups.length + 1 ∧
          d.matcher.groupNames =
            alone.groupNames ++ List.replicate missing none ++ [some groupName] ∧
          ∀ text,
            Option.Rel Matcher.Captures.Extends (alone.captures? groupName text)
              (d.matcher.captures? groupName text) ∧
            ((∀ last, e.Restarts last → last.EndsOnce) →
              Option.Rel (fun own shown => ∃ named, shown = own.withGroups missing named)
                (alone.captures? groupName text) (d.matcher.captures? groupName text))) := by
  obtain ⟨-, valid⟩ := ofSource_eq_ok.1 valid
  rw [String.toList_ofList] at valid
  obtain ⟨own, after, own_spelled, meant, -⟩ := formOf_eq_ok.1 valid
  rw [spelled] at own_spelled
  cases own_spelled
  obtain ⟨r, s, reads⟩ := reads_ofText spelled
  have ending : endsInComment q.trimmed = r.inComment := by rw [endsInComment, reads.read]
  -- in a comment the suffix is passed over; elsewhere it is read as one more item at the end
  cases commented : r.inComment with
  | true =>
      obtain ⟨other, means, read⟩ := ofText_commented reads commented
        Reader.suffix_completes_nothing (by decide)
      obtain ⟨-, compiled⟩ := formOf_within read (means _ _ meant) within
      refine ⟨_, build_of_missed missed compiled, rfl, fun _ => ⟨rfl, fun _ _ => rfl⟩, ?_⟩
      intro awake
      rw [ending, commented] at awake
      cases awake
  | false =>
      obtain ⟨extended, takes, read⟩ := ofText_suffix_of_valid reads unnamed commented
      obtain ⟨form, extended_meant, extends_form⟩ := suffix_form reads takes spelled meant
      obtain ⟨shallow, compiled⟩ := formOf_within read extended_meant within
      refine ⟨_, build_of_missed missed compiled, rfl, ?_, fun _ => ?_⟩
      · intro asleep
        rw [ending, commented] at asleep
        cases asleep
      let m : Matcher := ⟨.ofList (q.trimmed ++ suffix), form⟩
      obtain ⟨missing, index, names⟩ :=
        groupNames_takesSuffix (m := m) reads takes spelled meant shallow extended_meant
      have absent := unlisted spelled meant unnamed
      rw [← index] at extends_form
      refine ⟨missing, ?_, names, fun text => ⟨?_, fun once => ?_⟩⟩
      · rw [index, reads.counted.captures, reads.groups]
      · exact Matcher.captures_extends names absent extends_form.1 text
      · exact Matcher.captures_agree names absent (extends_form.2 once) text

/-- A pattern with a group of its own keeps it and gets one more. -/
theorem group_of_its_own_is_kept :
    ∃ d, Request.build ⟨"ox", "(ox)", .text, .textSlice, none, none, .new⟩ = .ok d ∧
      d.matcher.groupNames = [none, none, some groupName] ∧
      ∀ text, Option.Rel (fun own shown => ∃ named, shown = own.withGroups 0 named)
        (Matcher.captures? ⟨"(ox)", .capture 1 none (.literal ['o', 'x'])⟩ groupName text)
        (d.matcher.captures? groupName text) := by
  let q : Request := ⟨"ox", "(ox)", .text, .textSlice, none, none, .new⟩
  let alone : Matcher := ⟨"(ox)", .capture 1 none (.literal ['o', 'x'])⟩
  have trimmed : q.trimmed = "(ox)".toList := by decide +kernel
  have valid : Matcher.ofSource? "(ox)" = .ok alone := by decide +kernel
  have spelled : Expr.ofText? "(ox)".toList = .ok (.group ⟨⟨0, 1, 1⟩, ⟨4, 1, 5⟩⟩ (.capture 1 none)
      (.concat ⟨⟨1, 1, 2⟩, ⟨3, 1, 4⟩⟩ [.atom (.literal ⟨.char ⟨1, 1, 2⟩ 'o', 'o', false⟩),
        .atom (.literal ⟨.char ⟨2, 1, 3⟩ 'x', 'x', false⟩)])) := by rfl
  have compiled : Matcher.formOf? ("(ox)".toList ++ suffix) = .ok
      (.seq (.capture 1 none (.literal ['o', 'x'])) (.mark 2 groupName false)) := by decide +kernel
  have missed : hasGroup q.trimmed = false := by decide +kernel
  have awake : endsInComment q.trimmed = false := by decide +kernel
  rw [← trimmed] at spelled compiled
  have valid_trimmed : Matcher.ofSource? (.ofList q.trimmed) = .ok alone := by
    rw [trimmed, String.ofList_toList]
    exact valid
  have within : ∀ rejection, Matcher.formOf? (q.trimmed ++ suffix) = .error rejection →
      rejection.isLimit = false := by
    intro rejection refused
    rw [compiled] at refused
    cases refused
  obtain ⟨d, built, -, -, shown⟩ :=
    suffix_conserves q alone _ valid_trimmed spelled List.not_mem_nil missed within
  obtain ⟨missing, count, names, agree⟩ := shown awake
  have own_names : alone.groupNames = [none, none] := rfl
  have exact_count : missing = 0 := by
    rw [own_names] at count
    exact Nat.add_left_cancel (k := 0) count
  subst exact_count
  refine ⟨d, built, ?_, fun text => (agree text).2 ?_⟩
  · rw [names, own_names]
    rfl
  · rintro last ⟨span, branches, before, after, same, -⟩
    cases same

namespace Pattern

def Form.lazily (body : Form) : Form := .repetition 0 (some 1) false body

theorem Form.run_lazily (body : Form) (base : Nat) {w : Way} (settled : w.choices = none) :
    (lazily body).run base [w] = Way.distinct (w :: body.run (base + 1) [w]) :=
  run_optionally false body base settled

def headTwice : Form :=
  .alt (.seq (.lazily (.literal ['a'])) (.literal ['b'])) (.lazily (.literal ['a']))

def headOnce : Form :=
  .seq (.lazily (.literal ['a']))
    (.alt (.literal ['b']) (.lazily (.capture 1 (some groupName) .empty)))

theorem all_headTwice (source : String) :
    (Matcher.captures? ⟨source, headTwice⟩ groupName "ab").map (·.all) = some [⟨0, 2⟩] := by
  have width_a : 'a'.utf8Size = 1 := rfl
  have width_b : 'b'.utf8Size = 1 := rfl
  have first : headTwice.matchAt? ⟨0, none, ['a', 'b']⟩ =
      some (⟨⟨0, 2⟩, []⟩, ⟨2, some 'b', []⟩) := by
    simp [headTwice, Form.matchAt?, Form.run, Form.run_lazily, Way.distinct, Way.distinct.keep,
      Way.key, Way.choose?, Way.takeText?, Way.take?, width_a, width_b]
  have last : headTwice.matchAt? ⟨2, some 'b', []⟩ = some (⟨⟨2, 2⟩, []⟩, ⟨2, some 'b', []⟩) := by
    simp [headTwice, Form.matchAt?, Form.run, Form.run_lazily, Way.distinct, Way.distinct.keep,
      Way.key, Way.choose?, Way.takeText?, Way.take?]
  simp [Matcher.captures?, Form.firstMatch?, Form.allMatches, Form.matchesFrom, Form.find?,
    Form.findFrom?, Cursor.ofText, Cursor.next?, Match.isEmpty, first, last]

theorem all_headOnce (source : String) :
    (Matcher.captures? ⟨source, headOnce⟩ groupName "ab").map (·.all) =
      some [⟨0, 0⟩, ⟨1, 2⟩] := by
  have width_a : 'a'.utf8Size = 1 := rfl
  have width_b : 'b'.utf8Size = 1 := rfl
  -- the letter is left out, and so is the group, so that the first match is empty
  have first : headOnce.matchAt? ⟨0, none, ['a', 'b']⟩ =
      some (⟨⟨0, 0⟩, []⟩, ⟨0, none, ['a', 'b']⟩) := by
    simp [headOnce, Form.matchAt?, Form.run, Form.run_lazily, Way.distinct, Way.distinct.keep,
      Way.key, Way.choose?, Way.takeText?, Way.take?, width_a]
  have second : headOnce.matchAt? ⟨1, some 'a', ['b']⟩ =
      some (⟨⟨1, 2⟩, []⟩, ⟨2, some 'b', []⟩) := by
    simp [headOnce, Form.matchAt?, Form.run, Form.run_lazily, Way.distinct, Way.distinct.keep,
      Way.key, Way.choose?, Way.takeText?, Way.take?, width_b]
  have last : headOnce.matchAt? ⟨2, some 'b', []⟩ = some (⟨⟨2, 2⟩, []⟩, ⟨2, some 'b', []⟩) := by
    simp [headOnce, Form.matchAt?, Form.run, Form.run_lazily, Way.distinct, Way.distinct.keep,
      Way.key, Way.choose?, Way.takeText?, Way.take?]
  simp [Matcher.captures?, Form.firstMatch?, Form.allMatches, Form.matchesFrom, Form.find?,
    Form.findFrom?, Cursor.ofText, Cursor.next?, Match.isEmpty, width_a, first, second, last]

end Pattern

/-- If all branches begin with the last one, the suffix makes it come first in them all: what took
two characters takes none. And a group that can take no part is listed with the suffix only. -/
theorem suffix_changes_matches :
    (∃ alone d, Matcher.ofSource? "a??b|a??" = .ok alone ∧
      Request.build ⟨"t", "a??b|a??", .text, .textSlice, none, none, .new⟩ = .ok d ∧
      (alone.captures? groupName "ab").map (·.all) = some [⟨0, 2⟩] ∧
      (d.matcher.captures? groupName "ab").map (·.all) = some [⟨0, 0⟩, ⟨1, 2⟩]) ∧
    ∃ alone d, Matcher.ofSource? "(a)\x7b0\x7d" = .ok alone ∧
      Request.build ⟨"t", "(a)\x7b0\x7d", .text, .textSlice, none, none, .new⟩ = .ok d ∧
      alone.groupNames = [none] ∧ d.matcher.groupNames = [none, none, some groupName] := by
  have valid : Matcher.ofSource? "a??b|a??" = .ok ⟨"a??b|a??", headTwice⟩ := by decide +kernel
  have compiled : compile "t" "a??b|a??" = .ok ⟨"a??b|a??(?<plural>)??", headOnce⟩ := by
    decide +kernel
  have names_alone :
      (Matcher.ofSource? "(a)\x7b0\x7d").map Matcher.groupNames = .ok [none] := by decide +kernel
  have names : (compile "t" "(a)\x7b0\x7d").map Matcher.groupNames =
      .ok [none, none, some groupName] := by decide +kernel
  obtain ⟨dropping, dropping_valid, names_alone⟩ := exists_of_map_eq_ok names_alone
  obtain ⟨listing, listing_compiled, names⟩ := exists_of_map_eq_ok names
  refine ⟨⟨_, _, valid, build_eq_ok.2 ⟨_, compiled, rfl⟩, all_headTwice _, all_headOnce _⟩, ?_⟩
  exact ⟨dropping, _, dropping_valid, build_eq_ok.2 ⟨listing, listing_compiled, rfl⟩, names_alone,
    names⟩

end ScriptTypes
