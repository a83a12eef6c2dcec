import ScriptTypes.Pattern.Reader.Step

/-!
Reading a pattern, one character at a time. The state says what has been read and what is being
read; `step` takes a character, `finish` the end of the text. A construct whose extent only the
next character settles (a repetition that may turn lazy, a `&` that may be doubled) waits in its
mode until that character comes. So reading a text and then more text is reading them joined,
but for one look ahead: the name of an ASCII class in brackets counts only if it is closed.
-/

namespace ScriptTypes.Pattern

open ScriptTypes.Text

namespace Reader

def finishItem (r : Reader) : Except Fault Expr :=
  match r.mode with
  | .sequence =>
    match r.frames with
    | frame :: _ => .error ⟨.groupUnclosed, frame.opening, none⟩
    | [] => .ok (closeLevel r.branches r.sequence r.position)
  | _ => .error r.classUnclosed

/-- Ends the text in the middle of a count. A second number is looked at before the missing brace
is. -/
def finishCount (r : Reader) (start : Position) (phase : CountPhase) : Fault :=
  let unclosed : Fault := ⟨.repetitionUnclosed, ⟨start, r.position⟩, none⟩
  match phase with
  | .high _ number =>
    match number.close r.position with
    | .error fault => fault
    | .ok _ => unclosed
  | _ => unclosed

def finish (r : Reader) : Except Fault Expr :=
  let error (cause : Cause) (span : Span) : Except Fault Expr := .error ⟨cause, span, none⟩
  match r.mode with
  | .quantifier low high target => (r.pushRepetition low high true target).finishItem
  | .count start _ phase => .error (r.finishCount start phase)
  | .counted start low high target => do
    (← r.pushCounted start low high true target).finishItem
  | .groupOpen opening => error .groupUnclosed opening
  | .groupMark opening _ => error .groupUnclosed opening
  | .groupLetter letter _ => error .flagUnknown letter
  | .groupAngle _ => error .groupNameUnclosed r.here
  | .groupName _ _ _ => error .groupNameUnclosed r.here
  | .groupFlags _ _ _ => error .flagMissing r.here
  | .escape start _ => error .escapeCutShort ⟨start, r.position⟩
  | .wordEdge start place => do (← r.closeWordEdge start r.position place).finishItem
  | .wordEdgeOpen start _ _ => error .wordEdgeOrRepetitionCutShort ⟨start, r.position⟩
  | .wordEdgeName _ brace _ _ _ => error .wordEdgeUnclosed ⟨brace, r.position⟩
  | .hexOpen _ _ _ => error .escapeCutShort r.here
  | .hexDigits _ _ _ _ _ => error .escapeCutShort r.here
  | .hexEnd start digits width read place => do
    (← r.closeHex start digits width read place).finishItem
  | .hexBrace _ brace _ _ => error .escapeCutShort ⟨brace, r.position⟩
  | .hexBraceEnd start brace digits stop read place => do
    (← r.closeHexBrace start brace digits stop read place).finishItem
  | .propertyOpen _ _ _ => error .escapeCutShort r.here
  | .propertyName _ _ _ _ => error .escapeCutShort r.here
  | .propertyLetter start negated letter place => do
    (← r.deliver place (.property ⟨start, r.position⟩ (.letter letter) negated)).finishItem
  | .classOpen start opening _ _ =>
    error .classUnclosed (if opening = .dashes then .empty start else ⟨start, r.position⟩)
  | _ => r.finishItem

end Reader

def Reader.run (r : Reader) : List Char → Except Fault Reader
  | [] => .ok r
  | c :: rest => do (← r.step c rest).run rest

def Expr.ofText? (text : List Char) : Except Fault Expr := do
  let e ← (← Reader.initial.run text).finish
  match e.tooDeep? 0 with
  | some span => throw ⟨.tooDeep depthLimit, span, none⟩
  | none => return e

end ScriptTypes.Pattern
