import ScriptTypes.Pattern.Reader.State

namespace ScriptTypes.Pattern

open ScriptTypes.Text

namespace Reader

def stepSequence (r : Reader) (c : Char) : Except Fault Reader :=
  let quantifier (low : Nat) (high : Option Nat) : Except Fault Reader := do
    let (target, r) ← r.takeTarget
    return r.become c (.quantifier low high target)
  let atom (item : Atom) : Except Fault Reader := .ok ((r.push (.atom item)).pass c)
  if c = '(' then .ok (r.become c (.groupOpen (.char r.position c)))
  else if c = ')' then r.closeGroup c
  else if c = '|' then .ok (r.closeBranch c)
  else if c = '[' then
    let start := r.position
    let r := { r with layers := [], members := ⟨r.here, []⟩ }
    .ok (r.become c (.classOpen start .bracket false ⟨r.here, []⟩))
  else if c = '?' then quantifier 0 (some 1)
  else if c = '*' then quantifier 0 none
  else if c = '+' then quantifier 1 none
  else if c = '\x7b' then do
    let start := r.position
    let (target, r) ← r.takeTarget
    return r.become c (.count start target (.low {}))
  else if c = '\\' then .ok (r.become c (.escape r.position .sequence))
  else if c = '.' then atom (.dot (.char r.position c))
  else if c = '^' then atom (.assertion (.char r.position c) .lineStart)
  else if c = '$' then atom (.assertion (.char r.position c) .lineEnd)
  else atom (.literal ⟨.char r.position c, c, false⟩)

def stepMember (r : Reader) (c : Char) (rest : List Char) : Except Fault Reader :=
  if c = '[' then
    match asciiClass? rest with
    | some (length, kind, negated) =>
      let stop := ahead (r.position.after c) length rest
      .ok (r.become c (.asciiClass length (.ascii ⟨r.position, stop⟩ kind negated)))
    | none =>
      .ok (r.become c (.classOpen r.position .bracket false ⟨.empty (r.position.after c), []⟩))
  else if c = ']' then .ok (r.closeClass c)
  else if c = '&' || c = '-' || c = '~' then .ok (r.become c (.doubled c r.position))
  else if c = '\\' then .ok (r.become c (.escape r.position .member))
  else .ok (r.become c (.memberEnd (.literal ⟨.char r.position c, c, false⟩)))

def stepMemberEnd (r : Reader) (item : Atom) (c : Char) (rest : List Char) :
    Except Fault Reader := do
  if c = '-' then return r.become c (.dash item r.position true .open)
  (r.pushMember (← item.asMember)).stepMember c rest

/-- Takes a character in one of the three modes in which constructs begin. White space and
comments before it are passed over if reading is spaced. -/
def stepItem (r : Reader) (c : Char) (rest : List Char) : Except Fault Reader :=
  if r.spaced && isBlank c then .ok (r.pass c)
  else if r.spaced && c = '#' then .ok { r.pass c with inComment := true }
  else
    match r.mode with
    | .sequence => r.stepSequence c
    | .member => r.stepMember c rest
    | .memberEnd item => r.stepMemberEnd item c rest
    | _ => .ok (r.pass c)

def stepRangeEnd (r : Reader) (first : Atom) (c : Char) : Except Fault Reader :=
  if c = '\\' then .ok (r.become c (.escape r.position (.rangeEnd first)))
  else return (← r.deliver (.rangeEnd first) (.literal ⟨.char r.position c, c, false⟩)).pass c

/-- Takes the first character behind a dash that is neither white space nor in a comment. The
dash is itself, not a range, if the class closes or another dash comes. -/
def stepDash (r : Reader) (item : Atom) (place : Position) (adjacent : Bool)
    (verdict : DashVerdict) (c : Char) (rest : List Char) : Except Fault Reader := do
  let isLiteral :=
    match verdict with
    | .range => false
    | .literal => true
    | _ => c = ']' || c = '-'
  if !isLiteral then return ← r.stepRangeEnd item c
  let r := r.pushMember (← item.asMember)
  if adjacent && c = '-' then return r.pushOperator c .difference
  r.stepMemberEnd (.literal ⟨.char place '-', '-', false⟩) c rest

def stepDoubled (r : Reader) (first : Char) (place : Position) (c : Char) (rest : List Char) :
    Except Fault Reader :=
  if c = first then
    .ok (r.pushOperator c
      (if c = '&' then .intersection else if c = '-' then .difference else .symmetricDifference))
  else { r with mode := .memberEnd (.literal ⟨.char place first, first, false⟩) }.stepItem c rest

/-- Takes a character in the opening of a class: a caret, then dashes or one closing bracket that
stand for themselves. -/
def stepClassOpen (r : Reader) (start : Position) (opening : Opening) (negated : Bool)
    (members : Members) (c : Char) (rest : List Char) : Except Fault Reader :=
  let self : ClassSet := .literal ⟨.char r.position c, c, false⟩
  if opening = .bracket && c = '^' then
    .ok (r.become c (.classOpen start .caret true ⟨.empty (r.position.after c), []⟩))
  else if c = '-' && opening ≠ .bracketLiteral then
    .ok (r.become c (.classOpen start .dashes negated (members.push self)))
  else if c = ']' && (opening = .bracket || opening = .caret) then
    .ok (r.become c (.classOpen start .bracketLiteral negated (members.push self)))
  else
    let members := if members.items.isEmpty then ⟨r.here, []⟩ else members
    (r.closeOpening start negated members).stepMember c rest

def stepEscape (r : Reader) (start : Position) (place : Place) (c : Char) : Except Fault Reader :=
  let span : Span := ⟨start, r.position.after c⟩
  let deliver (item : Atom) : Except Fault Reader := return (← r.deliver place item).pass c
  if c.isDigit then fail .backreference span
  else if let some width := hexWidth? c then .ok (r.become c (.hexOpen start width place))
  else if c = 'p' || c = 'P' then .ok (r.become c (.propertyOpen start (c = 'P') place))
  else if let some (kind, negated) := shorthand? c then deliver (.shorthand span kind negated)
  else if isEscapable c then deliver (.literal ⟨span, c, false⟩)
  else if let some control := namedControl? c then deliver (.literal ⟨span, control, false⟩)
  else if let some kind := assertion? c then deliver (.assertion span kind)
  else if c = 'b' then .ok (r.become c (.wordEdge start place))
  else fail .escapeUnknown span

def closeWordEdge (r : Reader) (start stop : Position) (place : Place) : Except Fault Reader :=
  r.deliver place (.assertion ⟨start, stop⟩ (.word .edge))

def stepCount (r : Reader) (start : Position) (target : Expr) (phase : CountPhase) (c : Char) :
    Except Fault Reader :=
  let unclosed := fail .repetitionUnclosed ⟨start, r.position⟩
  let stay (phase : CountPhase) : Except Fault Reader := .ok (r.become c (.count start target phase))
  let close (low : Nat) (high : Option Nat) : Except Fault Reader :=
    .ok (r.become c (.counted start low high target))
  match phase with
  | .low number =>
    match number.take? r.position c with
    | some number => stay (.low number)
    | none =>
      if c = ',' then stay (.comma (number.close r.position))
      else do
        let low ← number.close r.position
        if c = '\x7d' then close low (some low) else unclosed
  | .comma low => do
    let low ← low
    if c = '\x7d' then close low none
    else stepHigh low {} unclosed stay close
  | .high low number => stepHigh low number unclosed stay close
where
  stepHigh (low : Nat) (number : Decimal) (unclosed : Except Fault Reader)
      (stay : CountPhase → Except Fault Reader) (close : Nat → Option Nat → Except Fault Reader) :
      Except Fault Reader :=
    match number.take? r.position c with
    | some number => stay (.high low number)
    | none => do
      let high ← number.close r.position
      if c = '\x7d' then close low (some high) else unclosed

/-- Takes the first character behind the brace that follows a word edge. Only a letter or a dash
begins a name; anything else makes the brace a count. -/
def stepWordEdgeOpen (r : Reader) (start brace : Position) (place : Place) (c : Char) :
    Except Fault Reader := do
  if isWordEdgeLetter c then
    return r.become c (.wordEdgeName start brace r.position [c] place)
  match place with
  | .sequence =>
    let (target, r) ← (← r.closeWordEdge start brace place).takeTarget
    r.stepCount brace target (.low {}) c
  | .member => fail .classEscapeInvalid ⟨start, brace⟩
  | .rangeEnd _ => r.closeWordEdge start brace place

def stepWordEdgeName (r : Reader) (start brace content : Position) (name : List Char)
    (place : Place) (c : Char) : Except Fault Reader :=
  if isWordEdgeLetter c then
    .ok (r.become c (.wordEdgeName start brace content (c :: name) place))
  else if c = '\x7d' then
    match wordEdge? (.ofList name.reverse) with
    | some named =>
      return (← r.deliver place (.assertion ⟨start, r.position.after c⟩ (.word named))).pass c
    | none => fail .wordEdgeUnknown ⟨content, r.position⟩
  else fail .wordEdgeUnclosed ⟨brace, r.position⟩

def stepHexDigit (r : Reader) (start digits : Position) (width : HexWidth) (read : List Char)
    (place : Place) (c : Char) : Except Fault Reader :=
  if (hexValue? c).isNone then fail .escapeHexDigitInvalid (.char r.position c)
  else if read.length + 1 = width.digits then
    .ok (r.become c (.hexEnd start digits width (c :: read) place))
  else .ok (r.become c (.hexDigits start digits width (c :: read) place))

def stepHexBrace (r : Reader) (start brace : Position) (read : List Char) (place : Place)
    (c : Char) : Except Fault Reader :=
  if c = '\x7d' then
    .ok (r.become c (.hexBraceEnd start brace (brace.after '\x7b') r.position read place))
  else if (hexValue? c).isNone then fail .escapeHexDigitInvalid (.char r.position c)
  else .ok (r.become c (.hexBrace start brace (c :: read) place))

def closeHex (r : Reader) (start digits : Position) (width : HexWidth) (read : List Char)
    (place : Place) : Except Fault Reader :=
  match hexChar? read with
  | some c => r.deliver place (.literal ⟨⟨start, r.position⟩, c, width = .two⟩)
  | none => fail .escapeHexInvalid ⟨digits, r.position⟩

def closeHexBrace (r : Reader) (start brace digits stop : Position) (read : List Char)
    (place : Place) : Except Fault Reader :=
  if read.isEmpty then fail .escapeHexEmpty ⟨brace, r.position⟩
  else
    match hexChar? read with
    | some c => r.deliver place (.literal ⟨⟨start, r.position⟩, c, false⟩)
    | none => fail .escapeHexInvalid ⟨digits, stop⟩

def stepPropertyOpen (r : Reader) (start : Position) (negated : Bool) (place : Place) (c : Char) :
    Except Fault Reader :=
  if c = '\x7b' then .ok (r.become c (.propertyName start negated [] place))
  else if c = '\\' then fail .propertyInvalid (.char r.position c)
  else .ok (r.become c (.propertyLetter start negated c place))

def stepPropertyName (r : Reader) (start : Position) (negated : Bool) (name : List Char)
    (place : Place) (c : Char) : Except Fault Reader :=
  if c = '\x7d' then
    let item := Atom.property ⟨start, r.position.after c⟩ (propertyQuery name.reverse) negated
    return (← r.deliver place item).pass c
  else .ok (r.become c (.propertyName start negated (c :: name) place))

def stepGroupName (r : Reader) (opening : Span) (start : Position) (name : List Char) (c : Char) :
    Except Fault Reader :=
  if c = '>' then
    let text := String.ofList name.reverse
    let span : Span := ⟨start, r.position⟩
    if name.isEmpty then fail .groupNameEmpty (.empty start)
    else
      match r.names.lookup text with
      | some earlier => .error ⟨.groupNameDuplicate, span, some earlier⟩
      | none =>
        .ok ({ r.pass c with names := (text, span) :: r.names }.openCapture opening (some text))
  else if (if name.isEmpty then isNameStart c else isNamePart c) then
    .ok (r.become c (.groupName opening start (c :: name)))
  else fail .groupNameInvalid (.char r.position c)

def flagChanges (items : List FlagItem) : FlagChanges :=
  (items.reverse.foldl (fun (on, changes) item =>
    match item.flag with
    | none => (false, changes)
    | some flag => (on, (flag, on) :: changes)) (true, [])).2.reverse

def stepGroupFlags (r : Reader) (opening : Span) (inner : Position) (items : List FlagItem)
    (c : Char) : Except Fault Reader :=
  let span := Span.char r.position c
  let add (flag : Option Flag) (clash : Cause) : Except Fault Reader :=
    match items.find? (·.flag = flag) with
    | some earlier => .error ⟨clash, span, some earlier.span⟩
    | none => .ok (r.become c (.groupFlags opening inner (⟨span, flag⟩ :: items)))
  if c = ':' || c = ')' then
    match items with
    | ⟨last, none⟩ :: _ => fail .flagNegationDangling last
    | _ =>
      let changes := flagChanges items
      if c = ':' then .ok ((r.pass c).openGroup opening (.plain changes))
      else if items.isEmpty then fail .repetitionMissing (.empty inner)
      else
        let r := (r.push (.flags ⟨opening.start, r.position.after c⟩ changes)).pass c
        .ok { r with spaced := (changes.lookup .spaced).getD r.spaced }
  else if c = '-' then add none .flagNegationRepeated
  else
    match flag? c with
    | some flag => add (some flag) .flagDuplicate
    | none => fail .flagUnknown span

def stepGroupMark (r : Reader) (opening : Span) (inner : Position) (c : Char) :
    Except Fault Reader :=
  if c = '=' || c = '!' then fail .lookAround ⟨opening.start, r.position.after c⟩
  else if c = '<' then .ok (r.become c (.groupAngle opening))
  else if c = 'P' then .ok (r.become c (.groupLetter (.char r.position c) opening))
  else r.stepGroupFlags opening inner [] c

def stepGroupAngle (r : Reader) (opening : Span) (c : Char) : Except Fault Reader :=
  if c = '=' || c = '!' then fail .lookAround ⟨opening.start, r.position.after c⟩
  else r.stepGroupName opening r.position [] c

/-- Lets a character behind a dash decide whether the dash makes a range. Comments take part from
their second character on, but for their line ends. -/
def observe (r : Reader) (c : Char) : Reader :=
  match r.mode with
  | .dash item place _ verdict =>
    let next :=
      if isBlank c then verdict
      else
        match verdict with
        | .open => if c = '#' then .openInComment else if c = ']' || c = '-' then .literal else .range
        | .openInComment => if c = ']' || c = '-' then .literal else .range
        | settled => settled
    { r with mode := .dash item place false next }
  | _ => r

def stepMode (r : Reader) (c : Char) (rest : List Char) : Except Fault Reader :=
  match r.mode with
  | .sequence => r.stepSequence c
  | .member => r.stepMember c rest
  | .memberEnd item => r.stepMemberEnd item c rest
  | .quantifier low high target =>
    if c = '?' then .ok ((r.pass c).pushRepetition low high false target)
    else (r.pushRepetition low high true target).stepItem c rest
  | .count start target phase => r.stepCount start target phase c
  | .counted start low high target =>
    if c = '?' then (r.pass c).pushCounted start low high false target
    else do (← r.pushCounted start low high true target).stepItem c rest
  | .groupOpen opening =>
    if c = '?' then .ok (r.become c (.groupMark opening r.position))
    else (r.openCapture opening none).stepItem c rest
  | .groupMark opening inner => r.stepGroupMark opening inner c
  | .groupLetter letter opening =>
    if c = '<' then .ok (r.become c (.groupName opening (r.position.after c) []))
    else fail .flagUnknown letter
  | .groupAngle opening => r.stepGroupAngle opening c
  | .groupName opening start name => r.stepGroupName opening start name c
  | .groupFlags opening inner items => r.stepGroupFlags opening inner items c
  | .escape start place => r.stepEscape start place c
  | .wordEdge start place =>
    if c = '\x7b' then .ok (r.become c (.wordEdgeOpen start r.position place))
    else do (← r.closeWordEdge start r.position place).stepItem c rest
  | .wordEdgeOpen start brace place => r.stepWordEdgeOpen start brace place c
  | .wordEdgeName start brace content name place =>
    r.stepWordEdgeName start brace content name place c
  | .hexOpen start width place =>
    if c = '\x7b' then .ok (r.become c (.hexBrace start r.position [] place))
    else r.stepHexDigit start r.position width [] place c
  | .hexDigits start digits width read place => r.stepHexDigit start digits width read place c
  | .hexEnd start digits width read place => do
    (← r.closeHex start digits width read place).stepItem c rest
  | .hexBrace start brace read place => r.stepHexBrace start brace read place c
  | .hexBraceEnd start brace digits stop read place => do
    (← r.closeHexBrace start brace digits stop read place).stepItem c rest
  | .propertyOpen start negated place => r.stepPropertyOpen start negated place c
  | .propertyName start negated name place => r.stepPropertyName start negated name place c
  | .propertyLetter start negated letter place => do
    (← r.deliver place (.property ⟨start, r.position⟩ (.letter letter) negated)).stepItem c rest
  | .classOpen start opening negated members =>
    r.stepClassOpen start opening negated members c rest
  | .dash item place adjacent verdict => r.stepDash item place adjacent verdict c rest
  | .doubled first place => r.stepDoubled first place c rest
  | .asciiClass left item =>
    if left ≤ 1 then .ok ((r.pushMember item).pass c)
    else .ok (r.become c (.asciiClass (left - 1) item))

def step (r : Reader) (c : Char) (rest : List Char) : Except Fault Reader :=
  if r.inComment then .ok { (r.observe c).pass c with inComment := c ≠ '\n' }
  else if r.spaced && r.mode.passesBlanks && isBlank c then .ok ((r.observe c).pass c)
  else if r.spaced && r.mode.passesBlanks && c = '#' then
    .ok { (r.observe c).pass c with inComment := true }
  else r.stepMode c rest

end Reader

end ScriptTypes.Pattern
