import ScriptTypes.Proofs.Pattern.Placing

namespace ScriptTypes.Pattern

open ScriptTypes.Text

namespace Reader

variable {r s : Reader} {c : Char} {rest : List Char}

theorem stepEscape_unplaced (r : Reader) (start moved : Position) (place : Place) (c : Char) :
    seen (r.unplaced.stepEscape moved place.unplaced c) = seen (r.stepEscape start place c) := by
  have alike := r.alike_unplaced
  unfold stepEscape
  dsimp only
  split
  · rfl
  split
  · exact congrArg some (alike.become (by simp [Mode.unplaced]) c)
  split
  · exact congrArg some (alike.become (by simp [Mode.unplaced]) c)
  split
  · exact seen_deliver_pass r place (by rfl) c
  split
  · exact seen_deliver_pass r place (by rfl) c
  split
  · exact seen_deliver_pass r place (by rfl) c
  split
  · exact seen_deliver_pass r place (by rfl) c
  split
  · exact congrArg some (alike.become (by simp [Mode.unplaced]) c)
  · rfl

theorem take_unplaced (number : Decimal) (here moved : Position) (c : Char) :
    (number.unplaced.take? moved c).map Decimal.unplaced =
      (number.take? here c).map Decimal.unplaced := by
  obtain ⟨start, digits, stop⟩ := number
  unfold Decimal.take?
  simp only [Decimal.unplaced, Option.isNone_map]
  split
  · cases digits <;> simp [Decimal.unplaced, Function.comp_def]
  split
  · simp [Decimal.unplaced, Function.comp_def]
  · rfl

theorem close_unplaced (number : Decimal) (here moved : Position) :
    (number.unplaced.close moved).toOption = (number.close here).toOption := by
  have digits : number.unplaced.digits = number.digits := rfl
  unfold Decimal.close
  rw [digits]
  dsimp only
  by_cases none_read : number.digits.isEmpty = true
  · rw [if_pos none_read, if_pos none_read]
    rfl
  rw [if_neg none_read, if_neg none_read]
  split
  · rfl
  · rfl

theorem unplaced_comma {low other : Except Fault Nat} (same : low.toOption = other.toOption) :
    (CountPhase.comma low).unplaced = (CountPhase.comma other).unplaced := by
  cases low <;> cases other <;> cases same <;> rfl

theorem stepHigh_unplaced {start moved : Position} {target : Expr} (low : Nat) (number : Decimal)
    {unclosed other : Except Fault Reader} (refused : seen unclosed = none)
    (refused_other : seen other = none) :
    seen (stepCount.stepHigh r.unplaced c low number.unplaced unclosed
        (fun phase => .ok (r.unplaced.become c (.count moved target.unplaced phase)))
        (fun low high => .ok (r.unplaced.become c (.counted moved low high target.unplaced)))) =
      seen (stepCount.stepHigh r c low number other
        (fun phase => .ok (r.become c (.count start target phase)))
        (fun low high => .ok (r.become c (.counted start low high target)))) := by
  have alike := r.alike_unplaced
  have taken := take_unplaced number r.position r.unplaced.position c
  unfold stepCount.stepHigh
  cases one : number.unplaced.take? r.unplaced.position c <;>
    cases two : number.take? r.position c <;> rw [one, two] at taken
  · simp only [seen_bind, close_unplaced number r.position]
    refine congrArg _ (funext fun high => ?_)
    by_cases closes : c = '\x7d'
    · rw [if_pos closes, if_pos closes]
      exact congrArg some (alike.become (by simp [Mode.unplaced]) c)
    · rw [if_neg closes, if_neg closes, refused, refused_other]
  · cases taken
  · cases taken
  · refine congrArg some (alike.become ?_ c)
    simp [Mode.unplaced, CountPhase.unplaced, Option.some.inj taken]

theorem stepCount_unplaced (r : Reader) (start moved : Position) (target : Expr)
    (phase : CountPhase) (c : Char) :
    seen (r.unplaced.stepCount moved target.unplaced phase.unplaced c) =
      seen (r.stepCount start target phase c) := by
  have alike := r.alike_unplaced
  have stay (one two : CountPhase) (same : one.unplaced = two.unplaced) :
      seen (.ok (r.unplaced.become c (.count moved target.unplaced one))) =
        seen (.ok (r.become c (.count start target two))) :=
    congrArg some (alike.become (by simp [Mode.unplaced, same]) c)
  cases phase with
  | low number =>
      have taken := take_unplaced number r.position r.unplaced.position c
      simp only [stepCount, CountPhase.unplaced]
      cases one : number.unplaced.take? r.unplaced.position c <;>
        cases two : number.take? r.position c <;> rw [one, two] at taken
      · by_cases comma : c = ','
        · simp only [if_pos comma]
          exact stay _ _ (unplaced_comma (close_unplaced number _ _))
        · simp only [if_neg comma]
          simp only [seen_bind, close_unplaced number r.position]
          refine congrArg _ (funext fun low => ?_)
          by_cases closes : c = '\x7d'
          · rw [if_pos closes, if_pos closes]
            exact congrArg some (alike.become (by simp [Mode.unplaced]) c)
          · rw [if_neg closes, if_neg closes]
            rfl
      · cases taken
      · cases taken
      · refine stay _ _ ?_
        simp only [CountPhase.unplaced, Option.some.inj taken]
  | comma low =>
      cases low with
      | error fault => rfl
      | ok low =>
          by_cases closes : c = '\x7d'
          · simp only [stepCount, CountPhase.unplaced, bind, Except.bind, if_pos closes]
            exact congrArg some (alike.become (by simp [Mode.unplaced]) c)
          · simp only [stepCount, CountPhase.unplaced, bind, Except.bind, if_neg closes]
            exact stepHigh_unplaced low {} rfl rfl
  | high low number => exact stepHigh_unplaced low number rfl rfl

theorem closeWordEdge_unplaced (r : Reader) (start stop moved here : Position) (place : Place) :
    seen (r.unplaced.closeWordEdge moved here place.unplaced) =
      seen (r.closeWordEdge start stop place) :=
  deliver_unplaced r place rfl

theorem stepWordEdgeName_unplaced (r : Reader) (start brace content : Position) (name : List Char)
    (place : Place) (c : Char) :
    seen (r.unplaced.stepWordEdgeName .first .first .first name place.unplaced c) =
      seen (r.stepWordEdgeName start brace content name place c) := by
  have alike := r.alike_unplaced
  unfold stepWordEdgeName
  split
  · exact congrArg some (alike.become (by simp [Mode.unplaced]) c)
  split
  · split
    · exact seen_deliver_pass r place (by rfl) c
    · rfl
  · rfl

theorem stepWordEdgeOpen_unplaced (r : Reader) (start brace : Position) (place : Place) (c : Char) :
    seen (r.unplaced.stepWordEdgeOpen .first .first place.unplaced c) =
      seen (r.stepWordEdgeOpen start brace place c) := by
  have alike := r.alike_unplaced
  unfold stepWordEdgeOpen
  by_cases letter : isWordEdgeLetter c = true
  · simp only [if_pos letter]
    exact congrArg some (alike.become (by simp [Mode.unplaced]) c)
  simp only [if_neg letter]
  cases place with
  | member => rfl
  | rangeEnd first => exact closeWordEdge_unplaced r start brace _ _ (.rangeEnd first)
  | sequence =>
      -- the word edge is put in the sequence and taken as the target of a count at once
      exact stepCount_unplaced { r with mode := .sequence } brace .first
        (.atom (.assertion ⟨start, brace⟩ (.word .edge))) (.low {}) c

theorem stepHexDigit_unplaced (r : Reader) (start digits moved here : Position) (width : HexWidth)
    (read : List Char) (place : Place) (c : Char) :
    seen (r.unplaced.stepHexDigit moved here width read place.unplaced c) =
      seen (r.stepHexDigit start digits width read place c) := by
  have alike := r.alike_unplaced
  unfold stepHexDigit
  split
  · rfl
  split
  · exact congrArg some (alike.become (by simp [Mode.unplaced]) c)
  · exact congrArg some (alike.become (by simp [Mode.unplaced]) c)

theorem stepHexBrace_unplaced (r : Reader) (start brace : Position) (read : List Char)
    (place : Place) (c : Char) :
    seen (r.unplaced.stepHexBrace .first .first read place.unplaced c) =
      seen (r.stepHexBrace start brace read place c) := by
  have alike := r.alike_unplaced
  unfold stepHexBrace
  split
  · exact congrArg some (alike.become (by simp [Mode.unplaced]) c)
  split
  · rfl
  · exact congrArg some (alike.become (by simp [Mode.unplaced]) c)

theorem closeHex_unplaced (r : Reader) (start digits : Position) (width : HexWidth)
    (read : List Char) (place : Place) :
    seen (r.unplaced.closeHex .first .first width read place.unplaced) =
      seen (r.closeHex start digits width read place) := by
  unfold closeHex
  split
  · exact deliver_unplaced r place (by rfl)
  · rfl

theorem closeHexBrace_unplaced (r : Reader) (start brace digits stop : Position) (read : List Char)
    (place : Place) :
    seen (r.unplaced.closeHexBrace .first .first .first .first read place.unplaced) =
      seen (r.closeHexBrace start brace digits stop read place) := by
  unfold closeHexBrace
  split
  · rfl
  split
  · exact deliver_unplaced r place (by rfl)
  · rfl

theorem stepPropertyOpen_unplaced (r : Reader) (start : Position) (negated : Bool) (place : Place)
    (c : Char) :
    seen (r.unplaced.stepPropertyOpen .first negated place.unplaced c) =
      seen (r.stepPropertyOpen start negated place c) := by
  have alike := r.alike_unplaced
  unfold stepPropertyOpen
  split
  · exact congrArg some (alike.become (by simp [Mode.unplaced]) c)
  split
  · rfl
  · exact congrArg some (alike.become (by simp [Mode.unplaced]) c)

theorem stepPropertyName_unplaced (r : Reader) (start : Position) (negated : Bool)
    (name : List Char) (place : Place) (c : Char) :
    seen (r.unplaced.stepPropertyName .first negated name place.unplaced c) =
      seen (r.stepPropertyName start negated name place c) := by
  unfold stepPropertyName
  split
  · exact seen_deliver_pass r place (by rfl) c
  · exact congrArg some (r.alike_unplaced.become (by simp [Mode.unplaced]) c)

theorem lookup_unplaced (names : List (String × Span)) (text : String) :
    (names.map fun n => (n.1, nowhere)).lookup text = (names.lookup text).map fun _ => nowhere := by
  induction names with
  | nil => rfl
  | cons n names ih =>
      rw [List.map_cons, List.lookup_cons, List.lookup_cons]
      split
      · rfl
      · exact ih

theorem Alike.addName (alike : Alike r s) (text : String) (span place : Span) :
    Alike { r with names := (text, span) :: r.names } { s with names := (text, place) :: s.names } := by
  simp only [Alike, unplaced, Reader.mk.injEq, List.map_cons] at alike ⊢
  simp only [alike, and_self]

theorem stepGroupName_unplaced (r : Reader) (opening place : Span) (start moved : Position)
    (name : List Char) (c : Char) :
    seen (r.unplaced.stepGroupName place moved name c) =
      seen (r.stepGroupName opening start name c) := by
  have alike := r.alike_unplaced
  have given := lookup_unplaced r.names (.ofList name.reverse)
  have names : r.unplaced.names = r.names.map fun n => (n.1, nowhere) := rfl
  unfold stepGroupName
  split
  · dsimp only
    split
    · rfl
    rw [names, given]
    cases r.names.lookup (.ofList name.reverse) with
    | some earlier => rfl
    | none => exact congrArg some ((alike.addName _ _ _).openCapture _ _ _)
  by_cases allowed : (if name.isEmpty then isNameStart c else isNamePart c) = true
  · rw [if_pos allowed, if_pos allowed]
    exact congrArg some (alike.become rfl c)
  · rw [if_neg allowed, if_neg allowed]
    rfl

theorem flagChanges_unplaced (items : List FlagItem) :
    flagChanges (items.map FlagItem.unplaced) = flagChanges items := by
  simp only [flagChanges, ← List.map_reverse, List.foldl_map, FlagItem.unplaced]

theorem stepGroupFlags_unplaced (r : Reader) (opening place : Span) (inner moved : Position)
    (items : List FlagItem) (c : Char) :
    seen (r.unplaced.stepGroupFlags place moved (items.map FlagItem.unplaced) c) =
      seen (r.stepGroupFlags opening inner items c) := by
  have alike := r.alike_unplaced
  have add (flag : Option Flag) : (items.map FlagItem.unplaced).find? (·.flag = flag) =
      (items.find? (·.flag = flag)).map FlagItem.unplaced := by
    rw [List.find?_map]
    rfl
  have longer (flag : Option Flag) :
      (Mode.groupFlags place moved (⟨.char .first c, flag⟩ :: items.map FlagItem.unplaced)).unplaced =
        (Mode.groupFlags opening inner (⟨.char r.position c, flag⟩ :: items)).unplaced := by
    simp [Mode.unplaced, FlagItem.unplaced]
  unfold stepGroupFlags
  dsimp only
  split
  · rw [flagChanges_unplaced]
    rcases items with _ | ⟨⟨last, _ | flag⟩, rest⟩
    · by_cases colon : c = ':'
      · simp only [List.map_nil, if_pos colon]
        exact congrArg some ((alike.pass c).openGroup place opening _)
      · simp only [List.map_nil, if_neg colon]
        rfl
    · rfl
    · by_cases colon : c = ':'
      · simp only [List.map_cons, FlagItem.unplaced, if_pos colon]
        exact congrArg some ((alike.pass c).openGroup place opening _)
      · simp only [List.map_cons, FlagItem.unplaced, if_neg colon]
        let spaced := ((flagChanges (⟨last, some flag⟩ :: rest)).lookup .spaced).getD r.spaced
        exact congrArg (fun t => some { t with spaced }) (alike.push (by rfl) : Alike _ _)
  split
  · rw [add]
    cases items.find? (·.flag = none) with
    | some earlier => rfl
    | none => exact congrArg some (alike.become (longer _) c)
  cases flag? c with
  | none => rfl
  | some flag =>
      dsimp only
      rw [add]
      cases items.find? (·.flag = some flag) with
      | some earlier => rfl
      | none => exact congrArg some (alike.become (longer _) c)

theorem stepGroupMark_unplaced (r : Reader) (opening : Span) (inner : Position) (c : Char) :
    seen (r.unplaced.stepGroupMark nowhere .first c) = seen (r.stepGroupMark opening inner c) := by
  have alike := r.alike_unplaced
  unfold stepGroupMark
  split
  · rfl
  split
  · exact congrArg some (alike.become rfl c)
  split
  · exact congrArg some (alike.become rfl c)
  · exact stepGroupFlags_unplaced r opening nowhere inner .first [] c

theorem stepGroupAngle_unplaced (r : Reader) (opening : Span) (c : Char) :
    seen (r.unplaced.stepGroupAngle nowhere c) = seen (r.stepGroupAngle opening c) := by
  unfold stepGroupAngle
  split
  · rfl
  · exact stepGroupName_unplaced r opening nowhere r.position .first [] c

theorem Alike.pushCounted (alike : Alike r s) (start moved : Position) (low : Nat)
    (high : Option Nat) (greedy : Bool) {target other : Expr}
    (same : target.unplaced = other.unplaced) :
    seen (r.pushCounted start low high greedy target) =
      seen (s.pushCounted moved low high greedy other) := by
  unfold Reader.pushCounted
  split
  · rfl
  · exact congrArg some (alike.pushRepetition same low high greedy)

theorem stepMode_unplaced (r : Reader) (c : Char) (rest : List Char) :
    seen (r.unplaced.stepMode c rest) = seen (r.stepMode c rest) := by
  have alike := r.alike_unplaced
  unfold stepMode
  rw [mode_unplaced]
  -- places occur in what is read and nowhere in what is asked, so that both sides branch alike
  cases mode : r.mode with
  | sequence => exact stepSequence_unplaced r c
  | member => exact stepMember_unplaced r c rest
  | memberEnd item => exact stepMemberEnd_unplaced r item c rest
  | quantifier low high target =>
      have pushed := alike.pushRepetition target.unplaced_unplaced low high
      dsimp only [Mode.unplaced]
      split
      · exact congrArg some ((alike.pass c).pushRepetition target.unplaced_unplaced low high false)
      · exact (pushed true).stepItem c rest
  | count start target phase => exact stepCount_unplaced r start .first target phase c
  | counted start low high target =>
      dsimp only [Mode.unplaced]
      have same := target.unplaced_unplaced
      split
      · exact (alike.pass c).pushCounted .first start low high false same
      · exact seen_stepItem (alike.pushCounted .first start low high true same) c rest
  | groupOpen opening =>
      dsimp only [Mode.unplaced]
      split
      · exact congrArg some (alike.become rfl c)
      · exact (alike.openCapture nowhere opening none).stepItem c rest
  | groupMark opening inner => exact stepGroupMark_unplaced r opening inner c
  | groupLetter letter opening =>
      dsimp only [Mode.unplaced]
      split
      · exact congrArg some (alike.become rfl c)
      · rfl
  | groupAngle opening => exact stepGroupAngle_unplaced r opening c
  | groupName opening start name => exact stepGroupName_unplaced r opening nowhere start .first name c
  | groupFlags opening inner items =>
      exact stepGroupFlags_unplaced r opening nowhere inner .first items c
  | escape start place => exact stepEscape_unplaced r start .first place c
  | wordEdge start place =>
      dsimp only [Mode.unplaced]
      split
      · exact congrArg some (alike.become (by simp [Mode.unplaced]) c)
      · exact seen_stepItem (closeWordEdge_unplaced r start r.position .first .first place) c rest
  | wordEdgeOpen start brace place => exact stepWordEdgeOpen_unplaced r start brace place c
  | wordEdgeName start brace content name place =>
      exact stepWordEdgeName_unplaced r start brace content name place c
  | hexOpen start width place =>
      dsimp only [Mode.unplaced]
      split
      · exact congrArg some (alike.become (by simp [Mode.unplaced]) c)
      · exact stepHexDigit_unplaced r start r.position .first .first width [] place c
  | hexDigits start digits width read place =>
      exact stepHexDigit_unplaced r start digits .first .first width read place c
  | hexEnd start digits width read place =>
      exact seen_stepItem (closeHex_unplaced r start digits width read place) c rest
  | hexBrace start brace read place => exact stepHexBrace_unplaced r start brace read place c
  | hexBraceEnd start brace digits stop read place =>
      exact seen_stepItem (closeHexBrace_unplaced r start brace digits stop read place) c rest
  | propertyOpen start negated place => exact stepPropertyOpen_unplaced r start negated place c
  | propertyName start negated name place =>
      exact stepPropertyName_unplaced r start negated name place c
  | propertyLetter start negated letter place =>
      exact seen_stepItem (deliver_unplaced r place (by rfl)) c rest
  | classOpen start opening negated members =>
      exact stepClassOpen_unplaced r start .first opening negated members c rest
  | dash item place adjacent verdict =>
      exact stepDash_unplaced r item place .first adjacent verdict c rest
  | doubled first place => exact stepDoubled_unplaced r first place .first c rest
  | asciiClass left item =>
      dsimp only [Mode.unplaced]
      split
      · exact congrArg some (alike.pushMember item.unplaced_unplaced)
      · exact congrArg some (alike.become (by simp [Mode.unplaced]) c)

theorem observe_unplaced (r : Reader) (c : Char) :
    Alike (r.unplaced.observe c) (r.observe c) := by
  have alike := r.alike_unplaced
  unfold observe
  rw [mode_unplaced]
  cases mode : r.mode with
  | dash item place adjacent verdict => exact alike.enter (by simp [Mode.unplaced])
  | _ => exact alike

theorem passesBlanks_unplaced (m : Mode) : m.unplaced.passesBlanks = m.passesBlanks := by
  cases m <;> rfl

/-- Readers that differ in places only take a character in the same way. -/
theorem step_unplaced (r : Reader) (c : Char) (rest : List Char) :
    seen (r.unplaced.step c rest) = seen (r.step c rest) := by
  have observed := r.observe_unplaced c
  have inComment : r.unplaced.inComment = r.inComment := rfl
  have spaced : r.unplaced.spaced = r.spaced := rfl
  unfold step
  rw [inComment, spaced, mode_unplaced, passesBlanks_unplaced]
  split
  · exact congrArg (fun t => some { t with inComment := c ≠ '\n' }) observed
  split
  · exact congrArg some observed
  split
  · exact congrArg (fun t => some { t with inComment := true }) observed
  · exact stepMode_unplaced r c rest

theorem Alike.step (alike : Alike r s) (c : Char) (rest : List Char) :
    seen (r.step c rest) = seen (s.step c rest) := by
  have same : r.unplaced = s.unplaced := alike
  rw [← step_unplaced r, same, step_unplaced]

theorem Alike.run (alike : Alike r s) (text : List Char) : seen (r.run text) = seen (s.run text) := by
  induction text generalizing r s with
  | nil => exact congrArg some alike
  | cons c rest ih => exact seen_congr (alike.step c rest) fun _ _ => ih

theorem settle_unplaced (r : Reader) : seen r.unplaced.settle = seen r.settle := by
  have alike := r.alike_unplaced
  unfold settle
  rw [mode_unplaced]
  cases mode : r.mode with
  | quantifier low high target =>
      exact congrArg some (alike.pushRepetition target.unplaced_unplaced low high true)
  | counted start low high target =>
      exact alike.pushCounted .first start low high true target.unplaced_unplaced
  | wordEdge start place => exact closeWordEdge_unplaced r start r.position .first .first place
  | hexEnd start digits width read place => exact closeHex_unplaced r start digits width read place
  | hexBraceEnd start brace digits stop read place =>
      exact closeHexBrace_unplaced r start brace digits stop read place
  | propertyLetter start negated letter place => exact deliver_unplaced r place (by rfl)
  | _ => exact congrArg some alike

theorem Alike.ready (alike : Alike r s) (ready : r.mode = .sequence) : s.mode = .sequence := by
  have same := alike.mode
  rw [ready] at same
  cases mode : s.mode <;> rw [mode] at same <;> cases same

theorem Alike.closed (alike : Alike r s) (closed : r.frames = []) : s.frames = [] := by
  have same : r.frames.map Frame.unplaced = s.frames.map Frame.unplaced :=
    congrArg Reader.frames (alike : r.unplaced = s.unplaced)
  rw [closed] at same
  exact List.map_eq_nil_iff.1 same.symm

theorem Alike.closeLevel (alike : Alike r s) (stop moved : Position) :
    (closeLevel r.branches r.sequence stop).unplaced =
      (closeLevel s.branches s.sequence moved).unplaced := by
  have same : r.unplaced = s.unplaced := alike
  have branches : r.branches.map Branches.unplaced = s.branches.map Branches.unplaced :=
    congrArg Reader.branches same
  have sequence : r.sequence.unplaced = s.sequence.unplaced := congrArg Reader.sequence same
  rw [closeLevel_unplaced _ _ stop .first, closeLevel_unplaced _ _ moved .first, branches, sequence]

theorem Alike.finish (alike : Alike r s) {e : Expr} (finished : r.finish = .ok e) :
    ∃ other, s.finish = .ok other ∧ other.unplaced = e.unplaced := by
  obtain ⟨t, settled, ready, closed, rfl⟩ := finish_eq_ok.1 finished
  have same : seen r.settle = seen s.settle := by
    have same : r.unplaced = s.unplaced := alike
    rw [← settle_unplaced r, same, settle_unplaced]
  obtain ⟨u, settled_other, alike_end⟩ := exists_alike same settled
  refine ⟨_, finish_eq_ok.2 ⟨u, settled_other, alike_end.ready ready, alike_end.closed closed, rfl⟩, ?_⟩
  exact (alike_end.closeLevel t.position u.position).symm

end Reader

end ScriptTypes.Pattern
