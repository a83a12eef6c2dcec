import ScriptTypes.Pattern.Matching

namespace ScriptTypes.Pattern

namespace Found

@[simp] theorem ways_add (found : Found) (v : Way) : (found.add v).ways = v :: found.ways := rfl

theorem ways_foldl_add (found : Found) (ws : List Way) :
    (ws.foldl add found).ways = ws.reverse ++ found.ways := by
  induction ws generalizing found with
  | nil => rfl
  | cons v rest ih => simp [ih]

end Found

namespace Form

variable (body : Nat → List Way → List Way) (base : Nat) (greedy : Bool)

def spareTurns (low spare : Nat) (w : Way) : List Way :=
  (Found.loop (fun turn w => body (low + turn) [w]) (base + ·) greedy spare false 0 .none
    w).ways.reverse

def anyTurns (w : Way) : List Way :=
  (Found.loop (fun _ w => body 0 [w]) (fun _ => base) greedy (w.cursor.rest.length + 2) true 0 .none
    w).ways.reverse

def someTurns (last : Nat) (w : Way) : List Way :=
  ((body last [w]).foldl
    (Found.loop (fun _ w => body last [w]) (fun _ => base) greedy (w.cursor.rest.length + 2) true 0)
    .none).ways.reverse

/-- A way as it goes into a loop: it records its choices unless every turn takes a character. -/
def recordedBy (consumes : Bool) (w : Way) : Way := if consumes then w else w.record

def throughLoop (low : Nat) (w : Way) : List Way :=
  if low = 0 then
    match w.choose? (base + 1) with
    | none => []
    | some w =>
      if greedy then someTurns body base greedy (low - 1) w ++ [w]
      else w :: someTurns body base greedy (low - 1) w
  else someTurns body base greedy (low - 1) w

def releasedTo (w out : Way) : Way := if w.choices.isNone then { out with choices := none } else out

theorem runRepetition_bounded (low high : Nat) (consumes : Bool) (ws : List Way) :
    runRepetition low (some high) greedy consumes body base ws =
      Way.distinct
        ((copies body 0 low ws).flatMap (spareTurns body base greedy low (high - low))) := rfl

theorem runRepetition_unbounded (low : Nat) (consumes : Bool) (ws : List Way) :
    runRepetition low none greedy consumes body base ws =
      if consumes && low = 0 then Way.distinct (ws.flatMap (anyTurns body base greedy))
      else Way.distinct ((copies body 0 (low - 1) ws).flatMap fun w =>
        (throughLoop body base greedy low (recordedBy consumes w)).map (releasedTo w)) := rfl

end Form

end ScriptTypes.Pattern
