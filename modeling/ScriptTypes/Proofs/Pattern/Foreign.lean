import ScriptTypes.Proofs.Pattern.Classes

/-!
Characters that belong to no construct. Outside classes one can be read where an item may begin,
behind a parenthesis that opens, in an escape and in a property; in a name that it is part of; and
in a count, which only white space does not end.
-/

namespace ScriptTypes.Pattern

open ScriptTypes.Text

/-- A character that is no part of a number or a list of flags, and that stands for itself where a
construct waits for one of a few characters. -/
structure Foreign (c : Char) : Prop where
  noComment : c ≠ '#'
  noDigit : c.isDigit = false
  noHex : hexValue? c = none
  noEdge : isWordEdgeLetter c = false
  noFlag : flag? c = none
  noMark : c ∉ ['?', '\x7b', '\x7d', ',', '<', '>', '=', '!', 'P', ':', ')', '-']

theorem foreign_paren : Foreign '(' where
  noComment := by decide
  noDigit := by decide
  noHex := by decide
  noEdge := by decide
  noFlag := by decide
  noMark := by decide

theorem foreign_backslash : Foreign '\\' where
  noComment := by decide
  noDigit := by decide
  noHex := by decide
  noEdge := by decide
  noFlag := by decide
  noMark := by decide

inductive ForeignPlace (r next : Reader) (c : Char) : Prop
  | item {s : Reader} (settled : r.settle = .ok s) (ready : s.mode = .sequence)
  | opening {opening : Span} (mode : r.mode = .groupOpen opening)
  | escape {start : Position} (mode : r.mode = .escape start .sequence)
  | property {start : Position} {negated : Bool}
      (mode : r.mode = .propertyOpen start negated .sequence)
  | propertyName {start : Position} {negated : Bool} {name : List Char} {place : Place}
      (mode : r.mode = .propertyName start negated name place)
  | name {opening : Span} {start : Position} {name : List Char} (part : isNamePart c = true)
      (mode : next.mode = .groupName opening start name)
  | count {start : Position} {target : Expr} {phase : CountPhase} (blank : isBlank c = true)
      (mode : next.mode = .count start target phase)

theorem namePart_of_nameStart {c : Char} (begins : isNameStart c = true) : isNamePart c = true := by
  simp only [isNamePart, isNameStart, Bool.or_eq_true] at begins ⊢
  rcases begins with underscore | alphabetic
  · simp [underscore]
  · simp [alphabetic]

theorem place_of_outside {place : Place} (outside : place.inClass = false) :
    place = .sequence := by
  cases place with
  | sequence => rfl
  | member => cases outside
  | rangeEnd first => cases outside

namespace Foreign

variable {c d : Char} (foreign : Foreign c)
include foreign

theorem ne (marked : d ∈ ['?', '\x7b', '\x7d', ',', '<', '>', '=', '!', 'P', ':', ')', '-']) :
    c ≠ d := by
  rintro rfl
  exact foreign.noMark marked

theorem blank_of_take {number taken : Decimal} {here : Position}
    (took : number.take? here c = some taken) : isBlank c = true := by
  unfold Decimal.take? at took
  split at took
  · rename_i blank
    exact blank
  · simp [foreign.noDigit] at took

end Foreign

namespace Reader

variable {r s next : Reader} {c : Char} {rest : List Char} (foreign : Foreign c)
include foreign

theorem stepHigh_foreign {start : Position} {target : Expr} {low : Nat} {number : Decimal}
    {unclosed : Except Fault Reader} (refused : ∀ next, unclosed ≠ .ok next)
    (stepped : stepCount.stepHigh r c low number unclosed
      (fun phase => .ok (r.become c (.count start target phase)))
      (fun low high => .ok (r.become c (.counted start low high target))) = .ok next) :
    isBlank c = true ∧ ∃ phase, next.mode = .count start target phase := by
  unfold stepCount.stepHigh at stepped
  split at stepped
  · rename_i taken took
    cases stepped
    exact ⟨foreign.blank_of_take took, _, rfl⟩
  · obtain ⟨high, -, stepped⟩ := bind_eq_ok.1 stepped
    rw [if_neg (foreign.ne (by decide))] at stepped
    exact absurd stepped (refused next)

theorem stepCount_foreign {start : Position} {target : Expr} {phase : CountPhase}
    (stepped : r.stepCount start target phase c = .ok next) :
    isBlank c = true ∧ ∃ phase, next.mode = .count start target phase := by
  have refused : ∀ next, fail .repetitionUnclosed ⟨start, r.position⟩ ≠ .ok next :=
    fun _ absurd => nomatch absurd
  unfold stepCount at stepped
  dsimp only at stepped
  split at stepped
  · split at stepped
    · rename_i taken took
      cases stepped
      exact ⟨foreign.blank_of_take took, _, rfl⟩
    · rw [if_neg (foreign.ne (by decide))] at stepped
      obtain ⟨low, -, stepped⟩ := bind_eq_ok.1 stepped
      rw [if_neg (foreign.ne (by decide))] at stepped
      exact absurd stepped (refused next)
  · obtain ⟨low, -, stepped⟩ := bind_eq_ok.1 stepped
    rw [if_neg (foreign.ne (by decide))] at stepped
    exact stepHigh_foreign foreign refused stepped
  · exact stepHigh_foreign foreign refused stepped

theorem stepGroupName_foreign {opening : Span} {start : Position} {name : List Char}
    (stepped : r.stepGroupName opening start name c = .ok next) :
    isNamePart c = true ∧ next.mode = .groupName opening start (c :: name) := by
  unfold stepGroupName at stepped
  rw [if_neg (foreign.ne (by decide))] at stepped
  by_cases allowed : (if name.isEmpty then isNameStart c else isNamePart c) = true
  · rw [if_pos allowed] at stepped
    cases stepped
    refine ⟨?_, rfl⟩
    split at allowed
    · exact namePart_of_nameStart allowed
    · exact allowed
  · rw [if_neg allowed] at stepped
    cases stepped

theorem stepGroupFlags_foreign (opening : Span) (inner : Position) (items : List FlagItem) :
    r.stepGroupFlags opening inner items c ≠ .ok next := by
  have no_colon : c ≠ ':' := foreign.ne (by decide)
  have no_paren : c ≠ ')' := foreign.ne (by decide)
  have no_dash : c ≠ '-' := foreign.ne (by decide)
  intro stepped
  simp [stepGroupFlags, no_colon, no_paren, no_dash, foreign.noFlag, fail] at stepped

theorem stepGroupMark_foreign (opening : Span) (inner : Position) :
    r.stepGroupMark opening inner c ≠ .ok next := by
  have no_equals : c ≠ '=' := foreign.ne (by decide)
  have no_bang : c ≠ '!' := foreign.ne (by decide)
  have no_angle : c ≠ '<' := foreign.ne (by decide)
  have no_letter : c ≠ 'P' := foreign.ne (by decide)
  simp only [stepGroupMark, no_equals, no_bang, no_angle, no_letter, decide_false, Bool.or_false,
    Bool.false_eq_true, if_false]
  exact stepGroupFlags_foreign foreign opening inner []

theorem stepGroupAngle_foreign {opening : Span} (stepped : r.stepGroupAngle opening c = .ok next) :
    isNamePart c = true ∧ next.mode = .groupName opening r.position [c] := by
  have no_equals : c ≠ '=' := foreign.ne (by decide)
  have no_bang : c ≠ '!' := foreign.ne (by decide)
  simp only [stepGroupAngle, no_equals, no_bang, decide_false, Bool.or_false,
    Bool.false_eq_true, if_false] at stepped
  exact stepGroupName_foreign foreign stepped

theorem stepHexDigit_foreign (start digits : Position) (width : HexWidth) (read : List Char)
    (place : Place) : r.stepHexDigit start digits width read place c ≠ .ok next := by
  intro stepped
  simp [stepHexDigit, foreign.noHex, fail] at stepped

theorem stepHexBrace_foreign (start brace : Position) (read : List Char) (place : Place) :
    r.stepHexBrace start brace read place c ≠ .ok next := by
  have no_brace : c ≠ '\x7d' := foreign.ne (by decide)
  intro stepped
  simp [stepHexBrace, no_brace, foreign.noHex, fail] at stepped

theorem stepWordEdgeOpen_foreign {start brace : Position}
    (stepped : r.stepWordEdgeOpen start brace .sequence c = .ok next) :
    isBlank c = true ∧ ∃ target phase, next.mode = .count brace target phase := by
  simp only [stepWordEdgeOpen, foreign.noEdge] at stepped
  obtain ⟨closed, -, stepped⟩ := bind_eq_ok.1 stepped
  obtain ⟨⟨target, taken⟩, -, stepped⟩ := bind_eq_ok.1 stepped
  obtain ⟨blank, phase, mode⟩ := stepCount_foreign foreign stepped
  exact ⟨blank, target, phase, mode⟩

theorem stepWordEdgeName_foreign (start brace content : Position) (name : List Char)
    (place : Place) : r.stepWordEdgeName start brace content name place c ≠ .ok next := by
  have no_brace : c ≠ '\x7d' := foreign.ne (by decide)
  intro stepped
  simp [stepWordEdgeName, no_brace, foreign.noEdge, fail] at stepped

theorem place_of_foreign (outside : r.mode.inClass = false)
    (stepped : r.stepMode c rest = .ok next) : ForeignPlace r next c := by
  have outside_mode {mode : Mode} (same : r.mode = mode) : mode.inClass = false := same ▸ outside
  cases mode : r.mode with
  | sequence => exact .item (s := r) (by simp [settle, mode]) mode
  | quantifier low high target => exact .item (by simp [settle, mode]; rfl) rfl
  | count start target phase =>
      simp only [stepMode, mode] at stepped
      obtain ⟨blank, phase, mode⟩ := stepCount_foreign foreign stepped
      exact .count blank mode
  | counted start low high target =>
      simp only [stepMode, mode] at stepped
      rw [if_neg (foreign.ne (by decide))] at stepped
      obtain ⟨s, pushed, -⟩ := bind_eq_ok.1 stepped
      refine .item (s := s) (by simp [settle, mode, pushed]) ?_
      unfold pushCounted at pushed
      split at pushed
      · cases pushed
      · cases pushed
        rfl
  | groupOpen opening => exact .opening mode
  | groupMark opening inner =>
      simp only [stepMode, mode] at stepped
      exact absurd stepped (stepGroupMark_foreign foreign opening inner)
  | groupLetter letter opening =>
      simp only [stepMode, mode] at stepped
      rw [if_neg (foreign.ne (by decide))] at stepped
      cases stepped
  | groupAngle opening =>
      simp only [stepMode, mode] at stepped
      obtain ⟨part, mode⟩ := stepGroupAngle_foreign foreign stepped
      exact .name part mode
  | groupName opening start name =>
      simp only [stepMode, mode] at stepped
      obtain ⟨part, mode⟩ := stepGroupName_foreign foreign stepped
      exact .name part mode
  | groupFlags opening inner items =>
      simp only [stepMode, mode] at stepped
      exact absurd stepped (stepGroupFlags_foreign foreign opening inner items)
  | escape start place =>
      obtain rfl := place_of_outside (outside_mode mode)
      exact .escape mode
  | wordEdge start place =>
      obtain rfl := place_of_outside (outside_mode mode)
      exact .item (by simp [settle, mode, closeWordEdge]; rfl) rfl
  | wordEdgeOpen start brace place =>
      obtain rfl := place_of_outside (outside_mode mode)
      simp only [stepMode, mode] at stepped
      obtain ⟨blank, target, phase, mode⟩ := stepWordEdgeOpen_foreign foreign stepped
      exact .count blank mode
  | wordEdgeName start brace content name place =>
      simp only [stepMode, mode] at stepped
      exact absurd stepped (stepWordEdgeName_foreign foreign start brace content name place)
  | hexOpen start width place =>
      simp only [stepMode, mode] at stepped
      rw [if_neg (foreign.ne (by decide))] at stepped
      exact absurd stepped (stepHexDigit_foreign foreign start _ width [] place)
  | hexDigits start digits width read place =>
      simp only [stepMode, mode] at stepped
      exact absurd stepped (stepHexDigit_foreign foreign start digits width read place)
  | hexEnd start digits width read place =>
      obtain rfl := place_of_outside (outside_mode mode)
      simp only [stepMode, mode] at stepped
      obtain ⟨s, closed, -⟩ := bind_eq_ok.1 stepped
      obtain ⟨item, delivered⟩ := closeHex_deliver closed
      cases delivered
      exact .item (s := r.push (.atom item)) (by simp [settle, mode, closed]) rfl
  | hexBrace start brace read place =>
      simp only [stepMode, mode] at stepped
      exact absurd stepped (stepHexBrace_foreign foreign start brace read place)
  | hexBraceEnd start brace digits stop read place =>
      obtain rfl := place_of_outside (outside_mode mode)
      simp only [stepMode, mode] at stepped
      obtain ⟨s, closed, -⟩ := bind_eq_ok.1 stepped
      obtain ⟨item, delivered⟩ := closeHexBrace_deliver closed
      cases delivered
      exact .item (s := r.push (.atom item)) (by simp [settle, mode, closed]) rfl
  | propertyOpen start negated place =>
      obtain rfl := place_of_outside (outside_mode mode)
      exact .property mode
  | propertyName start negated name place =>
      exact .propertyName mode
  | propertyLetter start negated letter place =>
      obtain rfl := place_of_outside (outside_mode mode)
      exact .item (by simp [settle, mode]; rfl) rfl
  | classOpen start opening negated members => cases outside_mode mode
  | member => cases outside_mode mode
  | memberEnd item => cases outside_mode mode
  | dash item place adjacent verdict => cases outside_mode mode
  | doubled c place => cases outside_mode mode
  | asciiClass left item => cases outside_mode mode

end Reader

end ScriptTypes.Pattern
