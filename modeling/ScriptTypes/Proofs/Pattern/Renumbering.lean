import ScriptTypes.Proofs.Pattern.Loops

/-!
The numbers of choices do not matter. Numbering the choices of a form from another base numbers
them alike in the ways through it, and changes nothing else.
-/

namespace ScriptTypes.Pattern

def raise (d : Nat) (choices : Option (List Nat)) : Option (List Nat) :=
  choices.map fun made => made.map (· + d)

theorem raise_injective (d : Nat) {a b : Option (List Nat)} (same : raise d a = raise d b) :
    a = b := by
  cases a with
  | none =>
      cases b with
      | none => rfl
      | some made => cases same
  | some made =>
      cases b with
      | none => cases same
      | some other =>
          have level : ∀ m n : Nat, m + d = n + d → m = n := fun m n => Nat.add_right_cancel
          rw [(List.map_inj_right level).1 (Option.some.inj same)]

namespace Way

def raised (d : Nat) (w : Way) : Way := { w with choices := raise d w.choices }

variable {d : Nat}

theorem contains_raised (d : Nat) (w : Way) (seen : List (Nat × Option (List Nat))) :
    (seen.map fun k => (k.1, raise d k.2)).contains (w.raised d).key = seen.contains w.key := by
  rw [Bool.eq_iff_iff, List.contains_iff_mem, List.contains_iff_mem, List.mem_map]
  constructor
  · rintro ⟨⟨offset, choices⟩, member, same⟩
    have level : offset = w.cursor.offset := congrArg Prod.fst same
    have alike : choices = w.choices := raise_injective d (congrArg Prod.snd same)
    rwa [level, alike] at member
  · intro member
    exact ⟨w.key, member, rfl⟩

theorem keep_raised (d : Nat) (seen : List (Nat × Option (List Nat))) (ws : List Way) :
    distinct.keep (seen.map fun k => (k.1, raise d k.2)) (ws.map (raised d)) =
      (distinct.keep seen ws).map (raised d) := by
  induction ws generalizing seen with
  | nil => rfl
  | cons w rest ih =>
      rw [List.map_cons, distinct.keep, distinct.keep, contains_raised]
      split
      · exact ih seen
      · rw [List.map_cons, ← ih (w.key :: seen)]
        rfl

theorem distinct_raised (d : Nat) (ws : List Way) :
    distinct (ws.map (raised d)) = (distinct ws).map (raised d) :=
  keep_raised d [] ws

theorem take_raised (d : Nat) (w : Way) (test : Char → Bool) :
    (w.raised d).take? test = (w.take? test).map (raised d) := by
  unfold take?
  cases text : w.cursor.rest with
  | nil => simp [raised, text]
  | cons c rest =>
      by_cases passes : test c = true
      · cases made : w.choices <;> simp [raised, raise, text, passes, made]
      · simp [raised, text, passes]

theorem takeText_raised (d : Nat) (text : List Char) (w : Way) :
    (w.raised d).takeText? text = (w.takeText? text).map (raised d) := by
  induction text generalizing w with
  | nil => rfl
  | cons c text ih =>
      rw [takeText?, takeText?, take_raised]
      cases taken : w.take? (· = c) with
      | none => rfl
      | some next => exact ih next

theorem choose_raised (d : Nat) (w : Way) (choice : Nat) :
    (w.raised d).choose? (choice + d) = (w.choose? choice).map (raised d) := by
  cases made : w.choices with
  | none => simp [choose?, raised, raise, made]
  | some choices =>
      have raised_made : (w.raised d).choices = some (choices.map (· + d)) := by
        simp [raised, raise, made]
      have met : (choices.map (· + d)).contains (choice + d) = choices.contains choice := by
        rw [Bool.eq_iff_iff, List.contains_iff_mem, List.contains_iff_mem, List.mem_map]
        constructor
        · rintro ⟨other, member, same⟩
          rwa [Nat.add_right_cancel same] at member
        · intro member
          exact ⟨choice, member, rfl⟩
      simp only [choose?, raised_made, made]
      rw [met]
      split <;> rfl

end Way

namespace Found

structure Raised (d : Nat) (found other : Found) : Prop where
  ways : other.ways = found.ways.map (Way.raised d)
  met : ∀ turn offset choices,
    other.met.contains (turn, offset, raise d choices) = found.met.contains (turn, offset, choices)

variable {d : Nat} {found other : Found}

theorem Raised.reverse (related : Raised d found other) :
    other.ways.reverse = found.ways.reverse.map (Way.raised d) := by
  rw [related.ways, List.map_reverse]

theorem Raised.none (d : Nat) : Raised d none none := by
  refine ⟨rfl, fun turn offset choices => ?_⟩
  simp [Found.none]

theorem Raised.add (related : Raised d found other) (w : Way) :
    Raised d (found.add w) (other.add (w.raised d)) := by
  refine ⟨?_, related.met⟩
  rw [Found.add, Found.add, List.map_cons, related.ways]

theorem Raised.insert (related : Raised d found other) (turn : Nat) (w : Way) :
    Raised d { found with met := found.met.insert (turn, w.key) }
      { other with met := other.met.insert (turn, (w.raised d).key) } := by
  refine ⟨related.ways, fun step offset choices => ?_⟩
  have alike : ((turn, (w.raised d).key) == (step, offset, raise d choices)) =
      ((turn, w.key) == (step, offset, choices)) := by
    rw [Bool.eq_iff_iff, beq_iff_eq, beq_iff_eq]
    constructor
    · intro same
      have level : turn = step := congrArg Prod.fst same
      have place : w.cursor.offset = offset := congrArg (fun k => k.2.1) same
      have made : w.choices = choices := raise_injective d (congrArg (fun k => k.2.2) same)
      rw [Way.key, level, place, made]
    · intro same
      have level : turn = step := congrArg Prod.fst same
      have place : w.cursor.offset = offset := congrArg (fun k => k.2.1) same
      have made : w.choices = choices := congrArg (fun k => k.2.2) same
      rw [← level, ← place, ← made]
      rfl
  simp only [Std.HashSet.contains_insert, alike, related.met]

theorem Raised.foldl {step step' : Found → Way → Found}
    (natural : ∀ found other w, Raised d found other →
      Raised d (step found w) (step' other (w.raised d)))
    (ws : List Way) (related : Raised d found other) :
    Raised d (ws.foldl step found) ((ws.map (Way.raised d)).foldl step' other) := by
  induction ws generalizing found other with
  | nil => exact related
  | cons w ws ih => exact ih (natural found other w related)

theorem Raised.loop (body body' : Nat → Way → List Way)
    (natural : ∀ turn w, body' turn (w.raised d) = (body turn w).map (Way.raised d))
    (choice : Nat → Nat) (greedy : Bool) (fuel : Nat) (unbounded : Bool) (turn : Nat)
    (found other : Found) (w : Way) (related : Raised d found other) :
    Raised d (loop body choice greedy fuel unbounded turn found w)
      (loop body' (fun n => choice n + d) greedy fuel unbounded turn other (w.raised d)) := by
  -- on the fuel; both sides have met the same states up to the shift, and so stop at the same turns
  induction fuel generalizing turn found other w with
  | zero => exact related.add w
  | succ fuel ih =>
      unfold Found.loop
      rw [Way.choose_raised]
      cases w.choose? (choice turn) with
      | none => exact related
      | some w =>
          dsimp only [Option.map]
          have met :
              other.met.contains (turn, (w.raised d).key) = found.met.contains (turn, w.key) :=
            related.met turn w.cursor.offset w.choices
          rw [met]
          split
          · exact related
          · have entered := related.insert turn w
            have again {found other : Found} (related : Raised d found other) :=
              Raised.foldl
                (fun found other w => ih (if unbounded then turn else turn + 1) found other w)
                (body turn w) related
            rw [← natural] at again
            split
            · exact (again entered).add w
            · exact again (entered.add w)

end Found

namespace Form

variable {d : Nat}

theorem copies_raised {body body' : Nat → List Way → List Way}
    (natural : ∀ turn ws, body' turn (ws.map (Way.raised d)) = (body turn ws).map (Way.raised d))
    (n turn : Nat) (ws : List Way) :
    copies body' turn n (ws.map (Way.raised d)) = (copies body turn n ws).map (Way.raised d) := by
  induction n generalizing turn ws with
  | zero => rfl
  | succ n ih =>
      rw [copies, copies, List.isEmpty_map]
      split
      · rfl
      · rw [natural, ih]

theorem flatMap_raised {step step' : Way → List Way}
    (natural : ∀ w, step' (w.raised d) = (step w).map (Way.raised d)) (ws : List Way) :
    (ws.map (Way.raised d)).flatMap step' = (ws.flatMap step).map (Way.raised d) := by
  rw [List.flatMap_map, List.map_flatMap]
  simp only [natural]

section

variable {body body' : Nat → List Way → List Way}
  (natural : ∀ turn ws, body' turn (ws.map (Way.raised d)) = (body turn ws).map (Way.raised d))
include natural

theorem single_raised (turn : Nat) (w : Way) :
    body' turn [w.raised d] = (body turn [w]).map (Way.raised d) :=
  natural turn [w]

theorem spareTurns_raised (base : Nat) (greedy : Bool) (low spare : Nat) (w : Way) :
    spareTurns body' (base + d) greedy low spare (w.raised d) =
      (spareTurns body base greedy low spare w).map (Way.raised d) := by
  have choice : (fun n => base + d + n) = fun n => base + n + d := by
    funext n
    omega
  have looped := Found.Raised.loop (fun turn w => body (low + turn) [w])
    (fun turn w => body' (low + turn) [w]) (fun turn w => single_raised natural (low + turn) w)
    (base + ·) greedy spare false 0 .none .none w (.none d)
  rw [spareTurns, choice]
  exact looped.reverse

theorem turn_raised (base : Nat) (greedy : Bool) (last fuel : Nat) (found other : Found) (w : Way)
    (related : Found.Raised d found other) :
    Found.Raised d
      (Found.loop (fun _ w => body last [w]) (fun _ => base) greedy fuel true 0 found w)
      (Found.loop (fun _ w => body' last [w]) (fun _ => base + d) greedy fuel true 0 other
        (w.raised d)) :=
  Found.Raised.loop (fun _ w => body last [w]) (fun _ w => body' last [w])
    (fun _ w => single_raised natural last w) (fun _ => base) greedy fuel true 0 found other w
    related

theorem anyTurns_raised (base : Nat) (greedy : Bool) (w : Way) :
    anyTurns body' (base + d) greedy (w.raised d) =
      (anyTurns body base greedy w).map (Way.raised d) :=
  (turn_raised natural base greedy 0 (w.cursor.rest.length + 2) .none .none w (.none d)).reverse

theorem someTurns_raised (base : Nat) (greedy : Bool) (last : Nat) (w : Way) :
    someTurns body' (base + d) greedy last (w.raised d) =
      (someTurns body base greedy last w).map (Way.raised d) := by
  have turned := Found.Raised.foldl
    (turn_raised natural base greedy last (w.cursor.rest.length + 2)) (body last [w]) (.none d)
  rw [← single_raised natural] at turned
  exact turned.reverse

theorem throughLoop_raised (base : Nat) (greedy : Bool) (low : Nat) (w : Way) :
    throughLoop body' (base + d) greedy low (w.raised d) =
      (throughLoop body base greedy low w).map (Way.raised d) := by
  have choice : base + d + 1 = base + 1 + d := by omega
  unfold throughLoop
  rw [choice, Way.choose_raised]
  split
  · cases w.choose? (base + 1) with
    | none => rfl
    | some w =>
        dsimp only [Option.map]
        rw [someTurns_raised natural]
        split
        · rw [List.map_append]
          rfl
        · rfl
  · exact someTurns_raised natural base greedy (low - 1) w

theorem runRepetition_raised (low : Nat) (high : Option Nat) (greedy consumes : Bool) (base : Nat)
    (ws : List Way) :
    runRepetition low high greedy consumes body' (base + d) (ws.map (Way.raised d)) =
      (runRepetition low high greedy consumes body base ws).map (Way.raised d) := by
  cases high with
  | some high =>
      rw [runRepetition_bounded, runRepetition_bounded, copies_raised natural,
        flatMap_raised (spareTurns_raised natural base greedy low (high - low)),
        Way.distinct_raised]
  | none =>
      rw [runRepetition_unbounded, runRepetition_unbounded, copies_raised natural]
      split
      · rw [flatMap_raised (anyTurns_raised natural base greedy), Way.distinct_raised]
      · rw [flatMap_raised ?_, Way.distinct_raised]
        intro w
        have recorded : recordedBy consumes (w.raised d) = (recordedBy consumes w).raised d := by
          cases made : w.choices <;> cases consumes <;>
            simp [recordedBy, Way.record, Way.raised, raise, made]
        have released (out : Way) :
            releasedTo (w.raised d) (out.raised d) = (releasedTo w out).raised d := by
          cases made : w.choices <;> simp [releasedTo, Way.raised, raise, made]
        rw [recorded, throughLoop_raised natural, List.map_map, List.map_map]
        exact List.map_congr_left fun out _ => released out

end

/-- Numbering the choices from another base changes nothing but their numbers. -/
theorem run_raised (d base : Nat) (f : Form) (ws : List Way) :
    f.run (base + d) (ws.map (Way.raised d)) = (f.run base ws).map (Way.raised d) := by
  induction f generalizing base ws with
  | empty => rfl
  | literal text =>
      rw [run, run, List.filterMap_map, List.map_filterMap]
      exact congrArg (ws.filterMap ·) (funext (Way.takeText_raised d text))
  | chars alphabet set =>
      rw [run, run, List.filterMap_map, List.map_filterMap]
      exact congrArg (ws.filterMap ·) (funext fun w => Way.take_raised d w set.contains)
  | look kind =>
      rw [run, run, List.filter_map]
      rfl
  | repetition low high greedy body ih =>
      simp only [run]
      refine runRepetition_raised ?_ low high greedy body.consumes base ws
      intro turn ws
      rw [← ih]
      congr 1
      omega
  | capture index name body ih =>
      rw [run, run, flatMap_raised ?_, Way.distinct_raised]
      intro w
      have inner := ih base [w]
      rw [List.map_singleton] at inner
      rw [inner, List.map_map, List.map_map]
      rfl
  | seq first rest ih_first ih_rest =>
      simp only [run]
      -- the rest counts on from the choices of the first part, which are as many on both sides
      rw [ih_first, ← ih_rest]
      congr 1
      omega
  | alt first rest ih_first ih_rest =>
      rw [run, run, flatMap_raised ?_, Way.distinct_raised]
      intro w
      rw [Way.choose_raised]
      cases w.choose? base with
      | none => rfl
      | some w =>
          have left := ih_first (base + 1) [w]
          have right := ih_rest (base + 1 + first.choiceCount) [w]
          rw [List.map_singleton] at left right
          have base_left : base + d + 1 = base + 1 + d := by omega
          have base_right :
              base + d + 1 + first.choiceCount = base + 1 + first.choiceCount + d := by omega
          dsimp only [Option.map]
          rw [base_right, base_left, left, right, List.map_append]

end Form

end ScriptTypes.Pattern
