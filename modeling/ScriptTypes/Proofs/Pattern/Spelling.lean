import ScriptTypes.Proofs.Pattern.Led
import ScriptTypes.Proofs.Pattern.Words

namespace ScriptTypes.Pattern

open ScriptTypes.Plural
open ScriptTypes.Text

namespace Reader

variable {r : Reader} {a b text : List Char}

structure Calm (r : Reader) : Prop where
  ready : r.mode = .sequence
  awake : r.inComment = false
  unspaced : r.spaced = false

theorem calm_initial : initial.Calm := ⟨rfl, rfl, rfl⟩

theorem Calm.step (calm : r.Calm) (c : Char) (rest : List Char) :
    r.step c rest = r.stepSequence c := by
  simp [Reader.step, stepMode, calm.ready, calm.awake, calm.unspaced]

theorem Calm.behind (calm : r.Calm) (text : List Char) : (r.behind text).Calm :=
  ⟨calm.ready, calm.awake, calm.unspaced⟩

theorem Calm.run_word (calm : r.Calm) (plain : Plain text) (rest : List Char) :
    r.run (text ++ rest) = (r.behind text).run rest :=
  run_letters plain calm.ready calm.awake calm.unspaced rest

/-! ### A plural group -/

theorem Calm.openPlural (calm : r.Calm) : r.openPlural.Calm := ⟨rfl, calm.awake, calm.unspaced⟩

def behindPlural (r : Reader) (text : List Char) : Reader :=
  { r with
    position := (text.foldl Position.after (opener.foldl Position.after r.position)).after ')'
    sequence := r.sequence.push (pluralItem r.position (r.captures + 1) text)
    captures := r.captures + 1
    names := (groupName, suffixName r.position) :: r.names }

theorem Calm.behindPlural (calm : r.Calm) (text : List Char) : (r.behindPlural text).Calm :=
  ⟨calm.ready, calm.awake, calm.unspaced⟩

theorem Calm.run_plural (calm : r.Calm) (unused : r.names.lookup groupName = none)
    (plain : Plain text) (rest : List Char) :
    r.run (opener ++ (text ++ ')' :: rest)) = (r.behindPlural text).run rest := by
  rw [run_opener (settle_sequence calm.ready) calm.ready calm.awake, unused]
  change r.openPlural.run _ = _
  have inside := calm.openPlural.behind text
  have closed : (r.openPlural.behind text).step ')' rest = .ok (r.behindPlural text) := by
    rw [inside.step]
    simp [stepSequence, closeGroup, Reader.behind, Reader.openPlural, openCapture, openGroup,
      closeLevel, Reader.behindPlural, pluralItem, wordFrom, Span.char, calm.ready]
  rw [calm.openPlural.run_word plain, run, closed]
  rfl

/-! ### Two endings -/

def openUnnamed (r : Reader) : Reader :=
  { r with position := r.position.after '(' }.openCapture (.char r.position '(') none

theorem Calm.openUnnamed (calm : r.Calm) : r.openUnnamed.Calm := ⟨rfl, calm.awake, calm.unspaced⟩

/-- The parenthesis of a group without a name is known as such by what follows. -/
theorem Calm.run_unnamed (calm : r.Calm) {c : Char} (unnamed : c ≠ '?') (rest : List Char) :
    r.run ('(' :: c :: rest) = r.openUnnamed.run (c :: rest) := by
  have opened : (r.become '(' (.groupOpen (.char r.position '('))).step c rest =
      r.openUnnamed.step c rest := by
    rw [calm.openUnnamed.step]
    simp [Reader.step, stepMode, stepItem, become, Reader.openUnnamed, openCapture, openGroup,
      unnamed, calm.awake, calm.unspaced]
  rw [run, calm.step]
  change (r.become '(' (.groupOpen (.char r.position '('))).run (c :: rest) = _
  rw [run, opened, run]

theorem Calm.closeBranch (calm : r.Calm) : (r.closeBranch '|').Calm :=
  ⟨calm.ready, calm.awake, calm.unspaced⟩

theorem Calm.run_bar (calm : r.Calm) (rest : List Char) :
    r.run ('|' :: rest) = (r.closeBranch '|').run rest := by
  rw [run, calm.step]
  rfl

theorem Calm.run_choice (calm : r.Calm) (unused : r.names.lookup groupName = none)
    (plain_a : Plain a) (plain_b : Plain b) :
    ∃ s, r.run (choiceText a b) = .ok s ∧ s.mode = .sequence ∧ s.branches = r.branches ∧
      s.frames = r.frames ∧
      s.sequence = r.sequence.push (choiceItem r.position (r.captures + 1) a b) := by
  -- a bar or a plain character follows the parenthesis, so that the group has no name
  obtain ⟨c, rest, begins, unnamed⟩ : ∃ c rest,
      a ++ '|' :: (opener ++ (b ++ [')', ')'])) = c :: rest ∧ c ≠ '?' := by
    cases a with
    | nil => exact ⟨_, _, rfl, by decide⟩
    | cons c a => exact ⟨c, _, rfl, fun same => plain_a c List.mem_cons_self (same ▸ by decide)⟩
  have first := calm.openUnnamed.behind a
  have second := first.closeBranch
  have last := second.behindPlural b
  rw [choiceText, begins, calm.run_unnamed unnamed, ← begins, calm.openUnnamed.run_word plain_a,
    first.run_bar, second.run_plural unused plain_b, run, last.step]
  refine ⟨_, rfl, rfl, rfl, rfl, ?_⟩
  simp [Reader.behind, Reader.behindPlural, Reader.openUnnamed, openCapture, openGroup, closeLevel,
    Reader.closeBranch, choiceItem, wordFrom, Span.char, Sequence.push, Sequence.close]

/-! ### An optional ending -/

def behindOptional (r : Reader) (text : List Char) (greedy : Bool) : Reader :=
  let item := optionalItem r.position (r.captures + 1) text greedy
  { r.behindPlural text with position := item.span.stop, sequence := r.sequence.push item }

theorem Calm.behindOptional (calm : r.Calm) (text : List Char) (greedy : Bool) :
    (r.behindOptional text greedy).Calm := ⟨calm.ready, calm.awake, calm.unspaced⟩

def atMark (r : Reader) (text : List Char) : Reader :=
  { r.behindPlural text with sequence := r.sequence }.become '?'
    (.quantifier 0 (some 1) (pluralItem r.position (r.captures + 1) text))

theorem Calm.run_mark (calm : r.Calm) (unused : r.names.lookup groupName = none)
    (plain : Plain text) (rest : List Char) :
    r.run (opener ++ (text ++ ')' :: '?' :: rest)) = (r.atMark text).run rest := by
  rw [calm.run_plural unused plain, run, (calm.behindPlural text).step]
  rfl

theorem Calm.settle_atMark (calm : r.Calm) (text : List Char) :
    (r.atMark text).settle = .ok (r.behindOptional text true) := by
  simp [settle, atMark, become, pushRepetition, Reader.push, Reader.behindOptional, optionalItem,
    optionalMarks, Reader.behindPlural, pluralItem, Expr.span, calm.ready]

theorem Calm.run_lazy (calm : r.Calm) (unused : r.names.lookup groupName = none)
    (plain : Plain text) (rest : List Char) :
    r.run (opener ++ (text ++ ')' :: '?' :: '?' :: rest)) =
      (r.behindOptional text false).run rest := by
  have stepped : (r.atMark text).step '?' rest = .ok (r.behindOptional text false) := by
    simp [Reader.step, stepMode, atMark, become, Reader.behindPlural, calm.awake, calm.unspaced,
      pass, pushRepetition, Reader.push, Reader.behindOptional, optionalItem, optionalMarks,
      pluralItem, Expr.span, calm.ready]
  rw [calm.run_mark unused plain, run, stepped]
  rfl

theorem parts_led (text : List Char) (item : Expr) :
    ((initial.behind text).sequence.push item).parts = (letters .first text ++ [item]).reverse := by
  simp [Reader.behind, initial, Sequence.push]

end Reader

open Reader

section

variable {s a b : List Char} (plain : Plain s)
include plain

theorem formOf_suffixed (fits : Matcher.formOf? (s ++ suffix) ≠ .error (.tooLarge weightLimit)) :
    Matcher.formOf? (s ++ suffix) = .ok (.led s (.mark 1 groupName false)) := by
  have calm := calm_initial.behind s
  have read : initial.run (s ++ suffix) = .ok (initial.behind s).takeSuffix := by
    rw [calm_initial.run_word plain]
    exact run_suffix (settle_sequence calm.ready) calm.ready calm.awake
  exact formOf_of_denotes read (settle_sequence rfl) rfl rfl rfl (parts_led s _)
    (denotes_led (denotes_suffix _ 1) .first s) (by decide) fits

theorem formOf_choice (plain_a : Plain a) (plain_b : Plain b)
    (fits : Matcher.formOf? (s ++ choiceText a b) ≠ .error (.tooLarge weightLimit)) :
    Matcher.formOf? (s ++ choiceText a b) = .ok (.choice s a b) := by
  have calm := calm_initial.behind s
  obtain ⟨r, read, ready, single, outside, sequence⟩ := calm.run_choice rfl plain_a plain_b
  rw [← calm_initial.run_word plain] at read
  exact formOf_of_denotes read (settle_sequence ready) ready outside single
    ((congrArg Sequence.parts sequence).trans (parts_led s _))
    (denotes_led (denotes_choice _ 1 a b) .first s) (by decide) fits

theorem formOf_optional (plain_b : Plain b) (filled : b ≠ []) (greedy : Bool)
    (fits : Matcher.formOf? (s ++ optionalText b greedy) ≠ .error (.tooLarge weightLimit)) :
    Matcher.formOf? (s ++ optionalText b greedy) = .ok (.led s (.optional b greedy)) := by
  have calm := calm_initial.behind s
  obtain ⟨r, read, settled⟩ : ∃ r, initial.run (s ++ optionalText b greedy) = .ok r ∧
      r.settle = .ok ((initial.behind s).behindOptional b greedy) := by
    rw [calm_initial.run_word plain]
    cases greedy with
    | true => exact ⟨_, calm.run_mark rfl plain_b [], calm.settle_atMark b⟩
    | false => exact ⟨_, calm.run_lazy rfl plain_b [], settle_sequence rfl⟩
  exact formOf_of_denotes read settled rfl rfl rfl (parts_led s _)
    (denotes_led (denotes_optional _ filled greedy) .first s) (by decide) fits

theorem formOf_anchored (plain_b : Plain b) (filled : b ≠ [])
    (fits : Matcher.formOf? (anchoredText s b) ≠ .error (.tooLarge weightLimit)) :
    Matcher.formOf? (anchoredText s b) = .ok (.anchored s b) := by
  let r := (initial.push (.atom (.assertion (.char .first '^') .lineStart))).pass '^'
  have calm_r : r.Calm := ⟨rfl, rfl, rfl⟩
  have calm := calm_r.behind s
  let last := (r.behind s).behindOptional b false
  have calm_last : last.Calm := calm.behindOptional b false
  let stop : Expr := .atom (.assertion (.char last.position '$') .lineEnd)
  have read : initial.run (anchoredText s b) = .ok ((last.push stop).pass '$') := by
    have begun : initial.run (anchoredText s b) = r.run (s ++ (optionalText b false ++ ['$'])) := rfl
    have spelled : optionalText b false ++ ['$'] = opener ++ (b ++ [')', '?', '?', '$']) := by
      simp [optionalText, optionalMarks]
    rw [begun, calm_r.run_word plain, spelled, calm.run_lazy rfl plain_b, run, calm_last.step]
    rfl
  refine formOf_of_denotes read (settle_sequence rfl) rfl rfl rfl ?_
    (denotes_anchored .first last.position filled) (by decide) fits
  simp [last, r, stop, Reader.behind, Reader.behindOptional, Reader.push, Reader.pass,
    Sequence.push, initial]

end

end ScriptTypes.Pattern
