import ScriptTypes.Proofs.Pattern.StepKinds

/-!
What each step function does to a reader, of what a character can do. Every step function is looked
at here once; what a step keeps of what has been put together is shown for the kinds of steps.
-/

namespace ScriptTypes.Pattern

open ScriptTypes.Text

namespace Reader

variable {r s : Reader} {o : Outline} {c : Char} {rest : List Char} {target : Expr}
  {x y : Except Fault Reader}

theorem changes_fail (cause : Cause) (span : Span) :
    Changes c r o (fail cause span) (fail cause span) := .refuse _

theorem changes_deliver {place : Place} (inClass : r.mode.inClass = place.inClass)
    (holds_none : r.mode.target? = none) (item : Atom) :
    Changes c r o (r.deliver place item) ((r.withOutline o).deliver place item) := by
  have beside (mode : Mode) (members : Members) : Beside r { r with mode, members } :=
    ⟨rfl, rfl, rfl⟩
  cases place with
  | sequence =>
      refine .done (.put r ⟨rfl, rfl, rfl⟩ (.atom item) (.item holds_none rfl) fun inside => ?_)
      rw [inClass] at inside
      cases inside
  | member =>
      exact .done (.turn _ (beside _ _) ⟨.inl holds_none.symm, inClass.symm, nofun, nofun, nofun⟩)
  | rangeEnd first =>
      exact changes_bind _ fun range =>
        .done (.turn _ (beside _ _) ⟨.inl holds_none.symm, inClass.symm, nofun, nofun, nofun⟩)

theorem changes_deliver_pass {place : Place} (inClass : r.mode.inClass = place.inClass)
    (holds_none : r.mode.target? = none) (item : Atom) :
    Changes c r o (do return (← r.deliver place item).pass c)
      (do return (← (r.withOutline o).deliver place item).pass c) :=
  (changes_deliver inClass holds_none item).pass

/-! The step functions of classes. -/

theorem turn_inClass (inside : r.mode.inClass = true) {m : Mode} (inClass : m.inClass = true)
    (plain : m.isEscape = false) (busy : m ≠ .sequence) : r.mode.Turn c m where
  carries := .inl ((Mode.target_inClass inClass).trans (Mode.target_inClass inside).symm)
  inClass := inClass.trans inside.symm
  escape := fun escape => absurd escape (by rw [plain]; nofun)
  ready := fun ready => absurd ready busy
  header := fun header => absurd header (by rw [Mode.header_inClass inClass]; nofun)

theorem changes_closeClass (inside : r.mode = .member) (same : c = ']') :
    Changes c r o (.ok (r.closeClass c)) (.ok ((r.withOutline o).closeClass c)) := by
  unfold closeClass
  simp only [withOutline_members, withOutline_layers, withOutline_position]
  split
  · rename_i span negated outer layers _
    split
    · have holds_none : r.mode.target? = none := by rw [inside]; rfl
      let s : Reader := { r with position := r.position.after c, layers }
      have beside : Beside r s := ⟨rfl, rfl, rfl⟩
      have put (e : Expr) (opens_none : e.openings = []) : Change c r o (s.push e) (o.push e) :=
        .put s beside e (.item holds_none opens_none) fun _ => same
      exact .done (put _ rfl)
    · let inner : Reader :=
        { r with position := r.position.after c, layers, members := outer, mode := .member }
      have turn (item : ClassSet) : Change c r o (inner.pushMember item) o :=
        .turn _ ⟨rfl, rfl, rfl⟩ (turn_inClass (by rw [inside]; rfl) rfl rfl nofun)
      exact .done (turn _)
  · exact .done (.turn r ⟨rfl, rfl, rfl⟩ (by rw [inside]; exact ⟨.inl rfl, rfl, nofun, nofun, nofun⟩))

theorem changes_member (inside : r.mode = .member) :
    Changes c r o (r.stepMember c rest) ((r.withOutline o).stepMember c rest) := by
  unfold stepMember
  split
  · split
    · exact changes_become inside ⟨.inl rfl, rfl, nofun, nofun, nofun⟩
    · exact changes_become inside ⟨.inl rfl, rfl, nofun, nofun, nofun⟩
  split
  · exact changes_closeClass inside ‹_›
  split
  · exact changes_become inside ⟨.inl rfl, rfl, nofun, nofun, nofun⟩
  split
  · exact changes_become inside ⟨.inl rfl, rfl, fun _ => ‹_›, nofun, nofun⟩
  · exact changes_become inside ⟨.inl rfl, rfl, nofun, nofun, nofun⟩

theorem changes_pushMember (inside : r.mode.inClass = true) (item : ClassSet)
    (changes : Changes c (r.pushMember item) o x y) : Changes c r o x y :=
  changes.after ⟨rfl, rfl, rfl⟩ (turn_inClass inside rfl rfl nofun)

theorem changes_memberEnd (inside : r.mode.inClass = true) (item : Atom) :
    Changes c r o (r.stepMemberEnd item c rest)
      ((r.withOutline o).stepMemberEnd item c rest) := by
  unfold stepMemberEnd
  split
  · exact changes_become rfl (turn_inClass inside rfl rfl nofun)
  · exact changes_bind _ fun member => changes_pushMember inside member (changes_member rfl)

theorem changes_rangeEnd (inside : r.mode.inClass = true) (first : Atom) :
    Changes c r o (r.stepRangeEnd first c) ((r.withOutline o).stepRangeEnd first c) := by
  unfold stepRangeEnd
  split
  · exact changes_become rfl
      ⟨.inl (Mode.target_inClass inside).symm, inside.symm, fun _ => ‹_›, nofun, nofun⟩
  · exact changes_deliver_pass inside (Mode.target_inClass inside) _

theorem changes_pushOperator (inside : r.mode.inClass = true) (operator : SetOperator) :
    Changes c r o (.ok (r.pushOperator c operator))
      (.ok ((r.withOutline o).pushOperator c operator)) :=
  .done (.turn (r.pushOperator c operator) ⟨rfl, rfl, rfl⟩ (turn_inClass inside rfl rfl nofun))

def dashIsLiteral (verdict : DashVerdict) (c : Char) : Bool :=
  match verdict with
  | .range => false
  | .literal => true
  | _ => c = ']' || c = '-'

theorem stepDash_eq (item : Atom) (place : Position) (adjacent : Bool) (verdict : DashVerdict) :
    r.stepDash item place adjacent verdict c rest =
      if dashIsLiteral verdict c then do
        let r := r.pushMember (← item.asMember)
        if adjacent && c = '-' then return r.pushOperator c .difference
        r.stepMemberEnd (.literal ⟨.char place '-', '-', false⟩) c rest
      else r.stepRangeEnd item c := by
  simp only [stepDash]
  change (if !dashIsLiteral verdict c then _ else _) = _
  cases dashIsLiteral verdict c <;> rfl

theorem changes_dash (inside : r.mode.inClass = true) (item : Atom) (place : Position)
    (adjacent : Bool) (verdict : DashVerdict) :
    Changes c r o (r.stepDash item place adjacent verdict c rest)
      ((r.withOutline o).stepDash item place adjacent verdict c rest) := by
  rw [stepDash_eq, stepDash_eq]
  split
  · refine changes_bind _ fun member => changes_pushMember inside member ?_
    split
    · exact changes_pushOperator rfl _
    · exact changes_memberEnd rfl _
  · exact changes_rangeEnd inside item

theorem changes_classOpen (inside : r.mode.inClass = true) (start : Position) (opening : Opening)
    (negated : Bool) (members : Members) :
    Changes c r o (r.stepClassOpen start opening negated members c rest)
      ((r.withOutline o).stepClassOpen start opening negated members c rest) := by
  unfold stepClassOpen
  simp only [withOutline_position]
  split
  · exact changes_become rfl (turn_inClass inside rfl rfl nofun)
  split
  · exact changes_become rfl (turn_inClass inside rfl rfl nofun)
  split
  · exact changes_become rfl (turn_inClass inside rfl rfl nofun)
  · have member (members : Members) :
        Changes c r o ((r.closeOpening start negated members).stepMember c rest)
          (((r.closeOpening start negated members).withOutline o).stepMember c rest) :=
      (changes_member rfl).after ⟨rfl, rfl, rfl⟩ (turn_inClass inside rfl rfl nofun)
    exact member _

/-! The step functions of escapes, which stand in a class or outside. -/

theorem changes_escape {start : Position} {place : Place} (mode : r.mode = .escape start place) :
    Changes c r o (r.stepEscape start place c) ((r.withOutline o).stepEscape start place c) := by
  have inClass : r.mode.inClass = place.inClass := by rw [mode]; rfl
  have holds_none : r.mode.target? = none := by rw [mode]; rfl
  unfold stepEscape
  dsimp only
  split
  · exact changes_fail _ _
  split
  · exact changes_become mode ⟨.inl rfl, rfl, nofun, nofun, nofun⟩
  split
  · exact changes_become mode ⟨.inl rfl, rfl, nofun, nofun, nofun⟩
  split
  · exact changes_deliver_pass inClass holds_none _
  split
  · exact changes_deliver_pass inClass holds_none _
  split
  · exact changes_deliver_pass inClass holds_none _
  split
  · exact changes_deliver_pass inClass holds_none _
  split
  · exact changes_become mode ⟨.inl rfl, rfl, nofun, nofun, nofun⟩
  · exact changes_fail _ _

theorem changes_wordEdgeName {start brace content : Position} {name : List Char} {place : Place}
    (mode : r.mode = .wordEdgeName start brace content name place) :
    Changes c r o (r.stepWordEdgeName start brace content name place c)
      ((r.withOutline o).stepWordEdgeName start brace content name place c) := by
  unfold stepWordEdgeName
  split
  · exact changes_become mode ⟨.inl rfl, rfl, nofun, nofun, nofun⟩
  split
  · split
    · exact changes_deliver_pass (by rw [mode]; rfl) (by rw [mode]; rfl) _
    · exact changes_fail _ _
  · exact changes_fail _ _

theorem changes_hexDigit {old : Mode} (mode : r.mode = old) {start digits : Position}
    {width : HexWidth} {read : List Char} {place : Place} (inClass : old.inClass = place.inClass)
    (holds_none : old.target? = none) :
    Changes c r o (r.stepHexDigit start digits width read place c)
      ((r.withOutline o).stepHexDigit start digits width read place c) := by
  unfold stepHexDigit
  split
  · exact changes_fail _ _
  split
  · exact changes_become mode ⟨.inl holds_none.symm, inClass.symm, nofun, nofun, nofun⟩
  · exact changes_become mode ⟨.inl holds_none.symm, inClass.symm, nofun, nofun, nofun⟩

theorem changes_hexBrace {start brace : Position} {read : List Char} {place : Place}
    (mode : r.mode = .hexBrace start brace read place) :
    Changes c r o (r.stepHexBrace start brace read place c)
      ((r.withOutline o).stepHexBrace start brace read place c) := by
  unfold stepHexBrace
  split
  · exact changes_become mode ⟨.inl rfl, rfl, nofun, nofun, nofun⟩
  split
  · exact changes_fail _ _
  · exact changes_become mode ⟨.inl rfl, rfl, nofun, nofun, nofun⟩

theorem changes_closeHex {start digits : Position} {width : HexWidth} {read : List Char}
    {place : Place} (mode : r.mode = .hexEnd start digits width read place) :
    Changes c r o (r.closeHex start digits width read place)
      ((r.withOutline o).closeHex start digits width read place) := by
  unfold closeHex
  split
  · exact changes_deliver (by rw [mode]; rfl) (by rw [mode]; rfl) _
  · exact changes_fail _ _

theorem changes_closeHexBrace {start brace digits stop : Position} {read : List Char}
    {place : Place} (mode : r.mode = .hexBraceEnd start brace digits stop read place) :
    Changes c r o (r.closeHexBrace start brace digits stop read place)
      ((r.withOutline o).closeHexBrace start brace digits stop read place) := by
  unfold closeHexBrace
  split
  · exact changes_fail _ _
  split
  · exact changes_deliver (by rw [mode]; rfl) (by rw [mode]; rfl) _
  · exact changes_fail _ _

theorem changes_propertyOpen {start : Position} {negated : Bool} {place : Place}
    (mode : r.mode = .propertyOpen start negated place) :
    Changes c r o (r.stepPropertyOpen start negated place c)
      ((r.withOutline o).stepPropertyOpen start negated place c) := by
  unfold stepPropertyOpen
  split
  · exact changes_become mode ⟨.inl rfl, rfl, nofun, nofun, nofun⟩
  split
  · exact changes_fail _ _
  · exact changes_become mode ⟨.inl rfl, rfl, nofun, nofun, nofun⟩

theorem changes_propertyName {start : Position} {negated : Bool} {name : List Char} {place : Place}
    (mode : r.mode = .propertyName start negated name place) :
    Changes c r o (r.stepPropertyName start negated name place c)
      ((r.withOutline o).stepPropertyName start negated name place c) := by
  unfold stepPropertyName
  split
  · exact changes_deliver_pass (by rw [mode]; rfl) (by rw [mode]; rfl) _
  · exact changes_become mode ⟨.inl rfl, rfl, nofun, nofun, nofun⟩

/-! The step functions of repetitions. -/

theorem change_pushRepetition (beside : Beside r s) (holds : r.mode.target? = some target)
    (outside : r.mode.inClass = false) (low : Nat) (high : Option Nat) (greedy : Bool) :
    Change c r o (s.pushRepetition low high greedy target)
      (o.push (.repetition ⟨target.span.start, s.position⟩ low high greedy target)) :=
  .put s beside _ (.repetition holds _ low high greedy) fun inside =>
    absurd (outside.symm.trans inside) nofun

theorem changes_pushCounted (beside : Beside r s) (holds : r.mode.target? = some target)
    (outside : r.mode.inClass = false) (start : Position) (low : Nat) (high : Option Nat)
    (greedy : Bool) :
    Changes c r o (s.pushCounted start low high greedy target)
      ((s.withOutline o).pushCounted start low high greedy target) := by
  unfold pushCounted
  split
  · exact changes_fail _ _
  · exact .done (change_pushRepetition beside holds outside low high greedy)

theorem changes_count (carries : ∀ m : Mode, m.target? = some target → r.mode.Carries m)
    (outside : r.mode.inClass = false) (start : Position) (phase : CountPhase) :
    Changes c r o (r.stepCount start target phase c)
      ((r.withOutline o).stepCount start target phase c) := by
  have stay (phase : CountPhase) : Changes c r o (.ok (r.become c (.count start target phase)))
      (.ok ((r.withOutline o).become c (.count start target phase))) :=
    changes_become rfl ⟨carries _ rfl, outside.symm, nofun, nofun, nofun⟩
  have close (low : Nat) (high : Option Nat) :
      Changes c r o (.ok (r.become c (.counted start low high target)))
        (.ok ((r.withOutline o).become c (.counted start low high target))) :=
    changes_become rfl ⟨carries _ rfl, outside.symm, nofun, nofun, nofun⟩
  have high (low : Nat) (number : Decimal) (unclosed : Fault) :
      Changes c r o
        (stepCount.stepHigh r c low number (.error unclosed)
          (fun phase => .ok (r.become c (.count start target phase)))
          (fun low high => .ok (r.become c (.counted start low high target))))
        (stepCount.stepHigh (r.withOutline o) c low number (.error unclosed)
          (fun phase => .ok ((r.withOutline o).become c (.count start target phase)))
          (fun low high => .ok ((r.withOutline o).become c (.counted start low high target)))) := by
    unfold stepCount.stepHigh
    simp only [withOutline_position]
    split
    · exact stay _
    · refine changes_bind _ fun high => ?_
      split
      · exact close _ _
      · exact .refuse _
  unfold stepCount
  simp only [withOutline_position]
  split
  · split
    · exact stay _
    split
    · exact stay _
    · refine changes_bind _ fun low => ?_
      split
      · exact close _ _
      · exact .refuse _
  · refine changes_bind _ fun low => ?_
    split
    · exact close _ _
    · exact high _ _ _
  · exact high _ _ _

theorem changes_wordEdgeOpen {start brace : Position} {place : Place}
    (mode : r.mode = .wordEdgeOpen start brace place) :
    Changes c r o (r.stepWordEdgeOpen start brace place c)
      ((r.withOutline o).stepWordEdgeOpen start brace place c) := by
  unfold stepWordEdgeOpen
  split
  · exact changes_become mode ⟨.inl rfl, rfl, nofun, nofun, nofun⟩
  cases place with
  | sequence =>
      -- the word edge is put in the sequence and taken as the target of a count at once
      let edge : Expr := .atom (.assertion ⟨start, brace⟩ (.word .edge))
      have carries (m : Mode) (holds : m.target? = some edge) : r.mode.Carries m := by
        rw [mode]
        exact .inr ⟨rfl, by rw [Mode.openings, holds]; rfl⟩
      exact changes_count carries (by rw [mode]; rfl) brace (.low {})
  | member => exact changes_fail _ _
  | rangeEnd first => exact changes_deliver (by rw [mode]; rfl) (by rw [mode]; rfl) _

/-! The step functions of group openings. -/

theorem step_groupName {old : Mode} (mode : r.mode = old) (holds_none : old.target? = none)
    (outside : old.inClass = false) (header : old.isHeader = true) {opening : Span}
    {start : Position} {name : List Char}
    (named : name ≠ [] → old = .groupName opening start name) :
    ModeStep c r o (r.stepGroupName opening start name c)
      ((r.withOutline o).stepGroupName opening start name c) := by
  subst mode
  unfold stepGroupName
  simp only [withOutline_position, withOutline_names]
  split
  · split
    · exact .of_changes (changes_fail _ _)
    split
    · exact .of_changes (.refuse _)
    · rename_i same filled _ unused
      let s : Reader :=
        { r.pass c with names := (.ofList name.reverse, ⟨start, r.position⟩) :: r.names }
      have origin : r.mode.Names c opening (some (.ofList name.reverse)) := by
        rw [named fun empty => filled (by rw [empty]; rfl)]
        exact .named opening start name same
      have opens := Opens.capture (r := r) (o := o) s rfl rfl _ (fun n same => by cases same; exact unused)
        rfl origin
      exact .of_opens opens
  by_cases allowed : (if name.isEmpty then isNameStart c else isNamePart c) = true
  · rw [if_pos allowed, if_pos allowed]
    exact .of_changes
      (changes_become rfl ⟨.inl holds_none.symm, outside.symm, nofun, nofun, fun _ => header⟩)
  · rw [if_neg allowed, if_neg allowed]
    exact .of_changes (changes_fail _ _)

theorem step_groupAngle {opening : Span} (mode : r.mode = .groupAngle opening) :
    ModeStep c r o (r.stepGroupAngle opening c) ((r.withOutline o).stepGroupAngle opening c) := by
  unfold stepGroupAngle
  split
  · exact .of_changes (changes_fail _ _)
  · exact step_groupName mode rfl rfl rfl fun filled => absurd rfl filled

theorem step_groupFlags {old : Mode} (mode : r.mode = old) (holds_none : old.target? = none)
    (outside : old.inClass = false) (opening : Span) (inner : Position) (items : List FlagItem) :
    ModeStep c r o (r.stepGroupFlags opening inner items c)
      ((r.withOutline o).stepGroupFlags opening inner items c) := by
  subst mode
  have become (flag : Option Flag) :
      ModeStep c r o
        (.ok (r.become c (.groupFlags opening inner (⟨.char r.position c, flag⟩ :: items))))
        (.ok ((r.withOutline o).become c
          (.groupFlags opening inner (⟨.char r.position c, flag⟩ :: items)))) :=
    .of_changes (changes_become rfl ⟨.inl holds_none.symm, outside.symm, nofun, nofun, nofun⟩)
  unfold stepGroupFlags
  simp only [withOutline_position]
  split
  · split
    · exact .of_changes (changes_fail _ _)
    split
    · have beside : Beside r (r.pass c) := ⟨rfl, rfl, rfl⟩
      have opens := Opens.plain (c := c) (o := o) (r.pass c) beside holds_none outside opening
        (flagChanges items)
      exact .of_opens opens
    split
    · exact .of_changes (changes_fail _ _)
    · let spaced := ((flagChanges items).lookup .spaced).getD r.spaced
      let s : Reader := { r.pass c with spaced }
      have beside : Beside r s := ⟨rfl, rfl, rfl⟩
      have put (e : Expr) (opens_none : e.openings = []) : Change c r o (s.push e) (o.push e) :=
        .put s beside e (.item holds_none opens_none) fun inside => by
          rw [outside] at inside; cases inside
      exact .of_changes (.done (put _ rfl))
  split
  · split
    · exact .of_changes (.refuse _)
    · exact become _
  split
  · split
    · exact .of_changes (.refuse _)
    · exact become _
  · exact .of_changes (changes_fail _ _)

theorem step_groupMark {opening : Span} {inner : Position}
    (mode : r.mode = .groupMark opening inner) :
    ModeStep c r o (r.stepGroupMark opening inner c)
      ((r.withOutline o).stepGroupMark opening inner c) := by
  unfold stepGroupMark
  split
  · exact .of_changes (changes_fail _ _)
  split
  · exact .of_changes (changes_become mode ⟨.inl rfl, rfl, nofun, nofun, fun _ => rfl⟩)
  split
  · exact .of_changes (changes_become mode ⟨.inl rfl, rfl, nofun, nofun, fun _ => rfl⟩)
  · exact step_groupFlags mode rfl rfl _ _ _

/-! Items. -/

theorem itemStep (plain : r.mode.isEscape = true → c = '\\') :
    ItemStep c r o (r.stepItem c rest) ((r.withOutline o).stepItem c rest) := by
  have passed (inComment : Bool) : Change c r o { r.pass c with inComment } o :=
    .turn _ ⟨rfl, rfl, rfl⟩ ⟨.inl rfl, rfl, plain, id, id⟩
  by_cases blank : (r.spaced && isBlank c) = true
  · simp only [stepItem, show (r.withOutline o).spaced = r.spaced from rfl, if_pos blank]
    exact .changes (.done (passed r.inComment))
  by_cases comment : (r.spaced && c = '#') = true
  · simp only [stepItem, show (r.withOutline o).spaced = r.spaced from rfl, if_neg blank,
      if_pos comment]
    exact .changes (.done (passed true))
  simp only [stepItem, show (r.withOutline o).spaced = r.spaced from rfl, if_neg blank,
    if_neg comment, withOutline_mode]
  split <;> rename_i mode
  · exact .sequence mode (sequenceStep c)
  · exact .changes (changes_member mode)
  · exact .changes (changes_memberEnd (by rw [mode]; rfl) _)
  · exact .changes (.done (passed r.inComment))

theorem itemStep_ready (ready : r.mode = .sequence) :
    ItemStep c r o (r.stepItem c rest) ((r.withOutline o).stepItem c rest) :=
  itemStep fun escape => absurd escape (by rw [ready]; nofun)

theorem Change.item {o' : Outline} (first : Change c r o s o') :
    ModeStep c r o (s.stepItem c rest) ((s.withOutline o').stepItem c rest) :=
  .settled first (itemStep first.escape)

theorem Changes.item (first : Changes c r o x y) :
    ModeStep c r o (x >>= (·.stepItem c rest)) (y >>= (·.stepItem c rest)) := by
  cases first with
  | refuse fault => exact .of_changes (.refuse fault)
  | done change => exact change.item

theorem step_doubled {first : Char} {place : Position} (mode : r.mode = .doubled first place) :
    ModeStep c r o (r.stepDoubled first place c rest)
      ((r.withOutline o).stepDoubled first place c rest) := by
  unfold stepDoubled
  split
  · exact .of_changes (changes_pushOperator (by rw [mode]; rfl) _)
  · let s : Reader := { r with mode := .memberEnd (.literal ⟨.char place first, first, false⟩) }
    have beside : Beside r s := ⟨rfl, rfl, rfl⟩
    have first : Change c r o s o := .turn s beside (turn_inClass (by rw [mode]; rfl) rfl rfl nofun)
    exact first.item

/-- Every character that is neither passed over nor in a comment does one of these. -/
theorem modeStep (r : Reader) (o : Outline) (c : Char) (rest : List Char) :
    ModeStep c r o (r.stepMode c rest) ((r.withOutline o).stepMode c rest) := by
  unfold stepMode
  simp only [withOutline_mode, withOutline_position]
  cases mode : r.mode with
  | sequence => exact .item (.sequence mode (sequenceStep c))
  | member => exact .of_changes (changes_member mode)
  | memberEnd item => exact .of_changes (changes_memberEnd (by rw [mode]; rfl) item)
  | quantifier low high target =>
      have holds := congrArg Mode.target? mode
      have outside := congrArg Mode.inClass mode
      dsimp only
      split
      · have passed : Beside r (r.pass c) := ⟨rfl, rfl, rfl⟩
        exact .of_changes (.done (change_pushRepetition passed holds outside low high false))
      · exact (change_pushRepetition ⟨rfl, rfl, rfl⟩ holds outside low high true).item
  | count start target phase =>
      have own := congrArg Mode.target? mode
      exact .of_changes (changes_count (fun m holds => .inl (holds.trans own.symm))
        (congrArg Mode.inClass mode) _ _)
  | counted start low high target =>
      have holds := congrArg Mode.target? mode
      have outside := congrArg Mode.inClass mode
      dsimp only
      split
      · have passed : Beside r (r.pass c) := ⟨rfl, rfl, rfl⟩
        exact .of_changes (changes_pushCounted passed holds outside start low high false)
      · exact (changes_pushCounted ⟨rfl, rfl, rfl⟩ holds outside start low high true).item
  | groupOpen opening =>
      dsimp only
      split
      · exact .of_changes (changes_become mode ⟨.inl rfl, rfl, nofun, nofun, fun _ => rfl⟩)
      · have origin : r.mode.Names c opening none := by rw [mode]; exact .unnamed opening
        have opens := Opens.capture (o := o) r rfl rfl none nofun rfl origin
        exact .opened opens (itemStep nofun)
  | groupMark opening inner => exact step_groupMark mode
  | groupLetter letter opening =>
      dsimp only
      split
      · exact .of_changes (changes_become mode ⟨.inl rfl, rfl, nofun, nofun, fun _ => rfl⟩)
      · exact .of_changes (changes_fail _ _)
  | groupAngle opening => exact step_groupAngle mode
  | groupName opening start name => exact step_groupName mode rfl rfl rfl fun _ => rfl
  | groupFlags opening inner items => exact step_groupFlags mode rfl rfl _ _ _
  | escape start place => exact .of_changes (changes_escape mode)
  | wordEdge start place =>
      dsimp only
      split
      · exact .of_changes (changes_become mode ⟨.inl rfl, rfl, nofun, nofun, nofun⟩)
      · exact (changes_deliver (congrArg Mode.inClass mode) (congrArg Mode.target? mode) _).item
  | wordEdgeOpen start brace place => exact .of_changes (changes_wordEdgeOpen mode)
  | wordEdgeName start brace content name place => exact .of_changes (changes_wordEdgeName mode)
  | hexOpen start width place =>
      dsimp only
      split
      · exact .of_changes (changes_become mode ⟨.inl rfl, rfl, nofun, nofun, nofun⟩)
      · exact .of_changes (changes_hexDigit mode rfl rfl)
  | hexDigits start digits width read place => exact .of_changes (changes_hexDigit mode rfl rfl)
  | hexEnd start digits width read place => exact (changes_closeHex mode).item
  | hexBrace start brace read place => exact .of_changes (changes_hexBrace mode)
  | hexBraceEnd start brace digits stop read place => exact (changes_closeHexBrace mode).item
  | propertyOpen start negated place => exact .of_changes (changes_propertyOpen mode)
  | propertyName start negated name place => exact .of_changes (changes_propertyName mode)
  | propertyLetter start negated letter place =>
      exact (changes_deliver (congrArg Mode.inClass mode) (congrArg Mode.target? mode) _).item
  | classOpen start opening negated members =>
      exact .of_changes (changes_classOpen (congrArg Mode.inClass mode) _ _ _ _)
  | dash item place adjacent verdict =>
      exact .of_changes (changes_dash (congrArg Mode.inClass mode) _ _ _ _)
  | doubled first place => exact step_doubled mode
  | asciiClass left item =>
      dsimp only
      split
      · have pushed : Change c r o ((r.pushMember item).pass c) o :=
          .turn _ ⟨rfl, rfl, rfl⟩ (turn_inClass (congrArg Mode.inClass mode) rfl rfl nofun)
        exact .of_changes (.done pushed)
      · exact .of_changes (changes_become mode ⟨.inl rfl, rfl, nofun, nofun, nofun⟩)

end Reader

end ScriptTypes.Pattern
