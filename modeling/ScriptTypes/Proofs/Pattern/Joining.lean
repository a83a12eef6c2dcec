import ScriptTypes.Pattern.Reader

/-!
Reading a text and then another is reading them joined. The only look ahead is for the name of an
ASCII class, so the second text must not be able to complete one that the first has begun.
-/

namespace ScriptTypes.Pattern

open ScriptTypes.Text

def CompletesNothing (more : List Char) : Prop := ':' ∉ more ∧ more.head? ≠ some ']'

def beforeColon (body : List Char) : List Char := body.takeWhile (· ≠ ':')

def namedClass? (body : List Char) (extra : Nat) (negated : Bool) :
    Option (Nat × AsciiClass × Bool) :=
  match body.drop (beforeColon body).length with
  | ':' :: ']' :: _ =>
    (asciiClassNames.lookup (.ofList (beforeColon body))).map fun kind =>
      ((beforeColon body).length + extra, kind, negated)
  | _ => none

theorem asciiClass_caret (body : List Char) :
    asciiClass? (':' :: '^' :: body) = namedClass? body 4 true := rfl

theorem asciiClass_plain {rest : List Char} (no_caret : rest.head? ≠ some '^') :
    asciiClass? (':' :: rest) = namedClass? rest 3 false := by
  simp only [asciiClass?, no_caret, if_false, decide_false]
  rfl

theorem beforeColon_name {name : List Char} (plain : ':' ∉ name) (rest : List Char) :
    beforeColon (name ++ ':' :: rest) = name := by
  rw [beforeColon, List.takeWhile_append_of_pos]
  · simp
  · intro c member
    have : c ≠ ':' := by rintro rfl; exact plain member
    simpa using this

theorem colon_not_mem_beforeColon (body : List Char) : ':' ∉ beforeColon body := by
  intro member
  induction body with
  | nil => cases member
  | cons c body ih =>
      by_cases colon : c = ':'
      · simp [beforeColon, colon] at member
      · rw [beforeColon, List.takeWhile_cons_of_pos (by simpa using colon)] at member
        exact ih ((List.mem_cons.1 member).resolve_left (Ne.symm colon))

theorem beforeColon_append_drop (body : List Char) :
    beforeColon body ++ body.drop (beforeColon body).length = body :=
  List.prefix_iff_eq_append.1 (List.takeWhile_prefix _)

theorem namedClass_eq_some {body : List Char} {extra n : Nat} {negated sign : Bool}
    {kind : AsciiClass} :
    namedClass? body extra negated = some (n, kind, sign) ↔
      ∃ name tail, ':' ∉ name ∧ asciiClassNames.lookup (.ofList name) = some kind ∧
        n = name.length + extra ∧ sign = negated ∧ body = name ++ ':' :: ']' :: tail := by
  constructor
  · intro found
    unfold namedClass? at found
    split at found
    · rename_i tail behind
      have whole := beforeColon_append_drop body
      rw [behind] at whole
      obtain ⟨kind', known, same⟩ := Option.map_eq_some_iff.1 found
      cases same
      exact ⟨_, tail, colon_not_mem_beforeColon body, known, rfl, rfl, whole.symm⟩
    · cases found
  · rintro ⟨name, tail, plain, known, rfl, rfl, rfl⟩
    rw [namedClass?, beforeColon_name plain, List.drop_left]
    simp [known]

theorem asciiClassNames_plain :
    ∀ entry ∈ asciiClassNames, entry.1.toList ≠ [] ∧ entry.1.toList.head? ≠ some '^' := by
  decide

theorem known_name_plain {name : List Char} {kind : AsciiClass}
    (known : asciiClassNames.lookup (.ofList name) = some kind) :
    name ≠ [] ∧ name.head? ≠ some '^' := by
  obtain ⟨before, after, split, -⟩ := List.lookup_eq_some_iff.1 known
  have member : (String.ofList name, kind) ∈ asciiClassNames := by simp [split]
  simpa using asciiClassNames_plain _ member

theorem asciiClass_eq_some {text : List Char} {n : Nat} {kind : AsciiClass} {negated : Bool} :
    asciiClass? text = some (n, kind, negated) ↔
      ∃ name tail, ':' ∉ name ∧ asciiClassNames.lookup (.ofList name) = some kind ∧
        n = name.length + (if negated then 4 else 3) ∧
        text = ':' :: ((if negated then ['^'] else []) ++ name) ++ ':' :: ']' :: tail := by
  constructor
  · intro found
    obtain ⟨rest, rfl⟩ : ∃ rest, text = ':' :: rest := by
      unfold asciiClass? at found
      split at found
      · exact ⟨_, rfl⟩
      · cases found
    by_cases caret : rest.head? = some '^'
    · obtain ⟨body, rfl⟩ := List.head?_eq_some_iff.1 caret
      rw [asciiClass_caret] at found
      obtain ⟨name, tail, plain, known, rfl, rfl, rfl⟩ := namedClass_eq_some.1 found
      exact ⟨name, tail, plain, known, rfl, rfl⟩
    · rw [asciiClass_plain caret] at found
      obtain ⟨name, tail, plain, known, rfl, rfl, rfl⟩ := namedClass_eq_some.1 found
      exact ⟨name, tail, plain, known, rfl, rfl⟩
  · rintro ⟨name, tail, plain, known, rfl, rfl⟩
    cases negated with
    | true =>
        refine (asciiClass_caret _).trans (namedClass_eq_some.2 ?_)
        exact ⟨name, tail, plain, known, rfl, rfl, rfl⟩
    | false =>
        obtain ⟨nonempty, no_caret⟩ := known_name_plain known
        refine (asciiClass_plain ?_).trans (namedClass_eq_some.2 ?_)
        · cases name with
          | nil => exact absurd rfl nonempty
          | cons c name => exact no_caret
        · exact ⟨name, tail, plain, known, rfl, rfl, rfl⟩

theorem asciiClass_length {text : List Char} {n : Nat} {kind : AsciiClass} {negated : Bool}
    (found : asciiClass? text = some (n, kind, negated)) : n ≤ text.length := by
  obtain ⟨name, tail, -, -, rfl, rfl⟩ := asciiClass_eq_some.1 found
  cases negated with
  | true =>
      simp only [if_true, List.length_cons, List.length_append]
      omega
  | false =>
      simp only [Bool.false_eq_true, if_false, List.length_cons, List.length_append,
        List.length_nil]
      omega

theorem closing_inside {text more front tail : List Char} (closed : CompletesNothing more)
    (same : text ++ more = front ++ ':' :: ']' :: tail) :
    ∃ inner, text = front ++ ':' :: ']' :: inner := by
  rcases List.append_eq_append_iff.1 same with ⟨gap, rfl, split⟩ | ⟨gap, rfl, split⟩
  · have member : ':' ∈ more := by rw [split]; simp
    exact absurd member closed.1
  · match gap, split with
    | [], split =>
      have member : ':' ∈ more := by rw [← List.nil_append more, ← split]; simp
      exact absurd member closed.1
    | [_], split =>
      obtain ⟨rfl, rest⟩ := List.cons_eq_cons.1 split
      have head : more.head? = some ']' := by
        change ']' :: tail = more at rest
        rw [← rest]
        rfl
      exact absurd head closed.2
    | _ :: _ :: inner, split =>
      obtain ⟨rfl, rest⟩ := List.cons_eq_cons.1 split
      obtain ⟨rfl, -⟩ := List.cons_eq_cons.1 rest
      exact ⟨inner, rfl⟩

theorem asciiClass_append {more : List Char} (closed : CompletesNothing more) (text : List Char) :
    asciiClass? (text ++ more) = asciiClass? text := by
  apply Option.ext
  rintro ⟨n, kind, negated⟩
  rw [asciiClass_eq_some, asciiClass_eq_some]
  constructor
  · rintro ⟨name, tail, plain, known, count, same⟩
    obtain ⟨inner, split⟩ := closing_inside closed same
    exact ⟨name, inner, plain, known, count, split⟩
  · rintro ⟨name, tail, plain, known, count, rfl⟩
    exact ⟨name, tail ++ more, plain, known, count, by simp⟩

namespace Reader

section

variable {c : Char} {rest other : List Char}
  (same : ∀ r : Reader, r.stepMember c rest = r.stepMember c other)
include same

theorem stepMemberEnd_congr (r : Reader) (item : Atom) :
    r.stepMemberEnd item c rest = r.stepMemberEnd item c other := by
  simp only [stepMemberEnd, same]

theorem stepItem_congr (r : Reader) : r.stepItem c rest = r.stepItem c other := by
  simp only [stepItem, same, stepMemberEnd_congr same]

theorem stepDash_congr (r : Reader) (item : Atom) (place : Position) (adjacent : Bool)
    (verdict : DashVerdict) :
    r.stepDash item place adjacent verdict c rest =
      r.stepDash item place adjacent verdict c other := by
  simp only [stepDash, stepMemberEnd_congr same]

theorem stepMode_congr (r : Reader) : r.stepMode c rest = r.stepMode c other := by
  simp only [stepMode, same, stepMemberEnd_congr same, stepItem_congr same, stepDash_congr same,
    stepDoubled, stepClassOpen]

/-- Where a class member does not look ahead, nothing does. -/
theorem step_congr (r : Reader) : r.step c rest = r.step c other := by
  simp only [step, stepMode_congr same]

end

variable {more : List Char}

theorem stepMember_append (closed : CompletesNothing more) (r : Reader) (c : Char)
    (rest : List Char) : r.stepMember c (rest ++ more) = r.stepMember c rest := by
  simp only [stepMember, asciiClass_append closed]
  split
  · cases found : asciiClass? rest with
    | none => rfl
    | some answer =>
        obtain ⟨n, kind, negated⟩ := answer
        simp only [ahead, List.take_append_of_le_length (asciiClass_length found)]
  · rfl

theorem stepMember_plain {c : Char} (plain : c ≠ '[') (r : Reader) (rest other : List Char) :
    r.stepMember c rest = r.stepMember c other := by
  simp only [stepMember, if_neg plain]

/-- Reading two texts joined is reading the second where the first has led, if no character of the
first one looks ahead into the second. -/
theorem run_append_of {text : List Char}
    (blind : ∀ c ∈ text, ∀ (r : Reader) (rest : List Char),
      r.step c (rest ++ more) = r.step c rest) (r : Reader) :
    r.run (text ++ more) = (r.run text).bind (·.run more) := by
  induction text generalizing r with
  | nil => rfl
  | cons c rest ih =>
      simp only [List.cons_append, run, blind c List.mem_cons_self, bind]
      cases r.step c rest with
      | error fault => rfl
      | ok next => exact ih (fun d member => blind d (List.mem_cons_of_mem c member)) next

theorem run_append (closed : CompletesNothing more) (r : Reader) (text : List Char) :
    r.run (text ++ more) = (r.run text).bind (·.run more) :=
  run_append_of (fun c _ r rest => step_congr (stepMember_append closed · c rest) r) r

theorem run_append_plain {text : List Char} (plain : '[' ∉ text) (r : Reader) :
    r.run (text ++ more) = (r.run text).bind (·.run more) := by
  refine run_append_of (fun c member r rest => step_congr (fun s => ?_) r) r
  exact stepMember_plain (ne_of_mem_of_not_mem member plain) s _ _

end Reader

end ScriptTypes.Pattern
