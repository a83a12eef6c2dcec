import ScriptTypes.Proofs.Pattern.Renumbering

/-!
What a run can do to a way. It ends groups of the form and no others, and a way that records no
choices still records none at the end. So the ways from such a way do not depend on how choices are
numbered.
-/

namespace ScriptTypes.Pattern

namespace Way

/-- What a way that has gone on has in common with what it was: it records choices if it did, and
the groups that it has ended since are among some. -/
structure Follows (indices : List Nat) (w out : Way) : Prop where
  records : out.choices.isNone = w.choices.isNone
  groups : ∃ ended, out.groups = ended ++ w.groups ∧ ∀ g ∈ ended, g.1 ∈ indices

variable {indices more : List Nat} {v w out : Way}

theorem Follows.refl (indices : List Nat) (w : Way) : Follows indices w w :=
  ⟨rfl, [], rfl, fun _ absurd => by cases absurd⟩

theorem Follows.trans (first : Follows indices v w) (last : Follows indices w out) :
    Follows indices v out := by
  obtain ⟨early, early_groups, early_among⟩ := first.groups
  obtain ⟨late, late_groups, late_among⟩ := last.groups
  refine ⟨last.records.trans first.records, late ++ early, ?_, ?_⟩
  · rw [late_groups, early_groups, List.append_assoc]
  · intro g member
    rcases List.mem_append.1 member with ended | ended
    · exact late_among g ended
    · exact early_among g ended

theorem Follows.mono (follows : Follows indices w out) (among : indices ⊆ more) :
    Follows more w out := by
  obtain ⟨ended, groups, inside⟩ := follows.groups
  exact ⟨follows.records, ended, groups, fun g member => among (inside g member)⟩

theorem Follows.of_groups (records : out.choices.isNone = w.choices.isNone)
    (groups : out.groups = w.groups) : Follows indices w out :=
  ⟨records, [], groups, fun _ absurd => by cases absurd⟩

theorem Follows.settled (follows : Follows indices w out) (settled : w.choices = none) :
    out.choices = none := by
  have records := follows.records
  rw [settled] at records
  exact Option.isNone_iff_eq_none.1 records

theorem Follows.lookup (follows : Follows indices w out) {index : Nat} (apart : index ∉ indices) :
    out.groups.lookup index = w.groups.lookup index := by
  obtain ⟨ended, groups, inside⟩ := follows.groups
  have absent : ended.lookup index = none := by
    rw [List.lookup_eq_none_iff]
    intro g member
    refine bne_iff_ne.2 ?_
    intro same
    subst same
    exact apart (inside g member)
  rw [groups, List.lookup_append, absent, Option.none_or]

theorem follows_take {test : Char → Bool} (taken : w.take? test = some out) :
    Follows indices w out := by
  unfold take? at taken
  split at taken
  · cases taken
  · split at taken
    · cases taken
      exact .of_groups Option.isNone_map rfl
    · cases taken

theorem follows_takeText {text : List Char} (taken : w.takeText? text = some out) :
    Follows indices w out := by
  induction text generalizing w with
  | nil =>
      cases taken
      exact .refl indices _
  | cons c text ih =>
      obtain ⟨next, first, later⟩ := Option.bind_eq_some_iff.1 taken
      exact (follows_take first).trans (ih later)

theorem follows_choose {choice : Nat} (chosen : w.choose? choice = some out) :
    Follows indices w out := by
  unfold choose? at chosen
  split at chosen
  · cases chosen
    exact .refl indices _
  · rename_i made recorded
    split at chosen
    · cases chosen
    · cases chosen
      exact .of_groups (by rw [recorded]; rfl) rfl

theorem follows_close {index : Nat} (among : index ∈ indices) (start : Nat) :
    Follows indices w (w.close index start) := by
  refine ⟨rfl, [(index, ⟨start, w.cursor.offset⟩)], rfl, ?_⟩
  intro g member
  rw [List.mem_singleton.1 member]
  exact among

theorem mem_of_keep {seen : List (Nat × Option (List Nat))} {ws : List Way}
    (kept : w ∈ distinct.keep seen ws) : w ∈ ws := by
  induction ws generalizing seen with
  | nil => exact kept
  | cons first rest ih =>
      rw [distinct.keep] at kept
      split at kept
      · exact List.mem_cons_of_mem _ (ih kept)
      · rcases List.mem_cons.1 kept with rfl | later
        · exact List.mem_cons_self
        · exact List.mem_cons_of_mem _ (ih later)

theorem mem_of_distinct {ws : List Way} (kept : w ∈ distinct ws) : w ∈ ws := mem_of_keep kept

theorem head_distinct (ws : List Way) : (distinct ws).head? = ws.head? := by
  cases ws <;> rfl

end Way

namespace Found

variable {indices : List Nat} {v : Way}

theorem loop_follows (body : Nat → Way → List Way)
    (follows : ∀ turn w, ∀ out ∈ body turn w, Way.Follows indices w out)
    (choice : Nat → Nat) (greedy : Bool) (fuel : Nat) (unbounded : Bool) (turn : Nat)
    (found : Found) (w : Way) (reached : Way.Follows indices v w)
    (before : ∀ out ∈ found.ways, Way.Follows indices v out) :
    ∀ out ∈ (loop body choice greedy fuel unbounded turn found w).ways,
      Way.Follows indices v out := by
  have add {found : Found} {w : Way} (reached : Way.Follows indices v w)
      (before : ∀ out ∈ found.ways, Way.Follows indices v out) :
      ∀ out ∈ (found.add w).ways, Way.Follows indices v out := by
    intro out member
    rcases List.mem_cons.1 member with rfl | earlier
    · exact reached
    · exact before out earlier
  -- on the fuel; every way found so far follows `v`, and so does the one that is being tried
  induction fuel generalizing turn found w with
  | zero => exact add reached before
  | succ fuel ih =>
      unfold Found.loop
      split
      · exact before
      · rename_i next chosen
        have reached : Way.Follows indices v next := reached.trans (Way.follows_choose chosen)
        split
        · exact before
        · have again (found : Found) (before : ∀ out ∈ found.ways, Way.Follows indices v out) :
              ∀ out ∈ ((body turn next).foldl (loop body choice greedy fuel unbounded
                (if unbounded then turn else turn + 1)) found).ways, Way.Follows indices v out := by
            have inside : ∀ out ∈ body turn next, Way.Follows indices v out :=
              fun out member => reached.trans (follows turn next out member)
            generalize body turn next = outs at inside
            -- the ways found by one turn are handed to the next, and so on along the fold
            induction outs generalizing found with
            | nil => exact before
            | cons first rest ih_rest =>
                refine ih_rest _ ?_ fun out member => inside out (List.mem_cons_of_mem _ member)
                exact ih _ found first (inside first List.mem_cons_self) before
          cases greedy with
          | true => exact add reached (again ⟨found.met.insert (turn, next.key), found.ways⟩ before)
          | false =>
              exact again (Found.add ⟨found.met.insert (turn, next.key), found.ways⟩ next)
                (add reached before)

end Found

namespace Form

def indices (f : Form) : List Nat := f.captures.map (·.1)

theorem released_follows {indices : List Nat} {consumes : Bool} {w out : Way}
    (through : Way.Follows indices (recordedBy consumes w) out) :
    Way.Follows indices w (releasedTo w out) := by
  have entered : (recordedBy consumes w).groups = w.groups := by cases consumes <;> rfl
  obtain ⟨ended, groups, inside⟩ := through.groups
  rw [entered] at groups
  unfold releasedTo
  split
  · rename_i settled
    exact ⟨settled.symm, ended, groups, inside⟩
  · rename_i unsettled
    refine ⟨?_, ended, groups, inside⟩
    rw [through.records]
    cases made : w.choices with
    | none =>
        rw [made] at unsettled
        exact absurd rfl unsettled
    | some choices => cases consumes <;> simp [recordedBy, Way.record, made]

section

variable {indices : List Nat} {body : Nat → List Way → List Way}
  (follows : ∀ turn ws, ∀ out ∈ body turn ws, ∃ w ∈ ws, Way.Follows indices w out)
include follows

theorem single_follows (turn : Nat) (w : Way) :
    ∀ out ∈ body turn [w], Way.Follows indices w out := by
  intro out member
  obtain ⟨v, only, reached⟩ := follows turn [w] out member
  rwa [List.mem_singleton.1 only] at reached

theorem copies_follows (n turn : Nat) (ws : List Way) :
    ∀ out ∈ copies body turn n ws, ∃ w ∈ ws, Way.Follows indices w out := by
  induction n generalizing turn ws with
  | zero => exact fun out member => ⟨out, member, .refl indices out⟩
  | succ n ih =>
      intro out member
      rw [copies] at member
      split at member
      · cases member
      · obtain ⟨middle, passed, last⟩ := ih (turn + 1) (body turn ws) out member
        obtain ⟨w, start, first⟩ := follows turn ws middle passed
        exact ⟨w, start, first.trans last⟩

theorem spareTurns_follows (base : Nat) (greedy : Bool) (low spare : Nat) (w : Way) :
    ∀ out ∈ spareTurns body base greedy low spare w, Way.Follows indices w out := by
  intro out member
  exact Found.loop_follows (fun turn w => body (low + turn) [w])
    (fun turn w => single_follows follows (low + turn) w) (base + ·) greedy spare false 0 .none w
    (.refl indices w) (fun _ absurd => by cases absurd) out (List.mem_reverse.1 member)

theorem anyTurns_follows (base : Nat) (greedy : Bool) (w : Way) :
    ∀ out ∈ anyTurns body base greedy w, Way.Follows indices w out := by
  intro out member
  exact Found.loop_follows (fun _ w => body 0 [w]) (fun _ w => single_follows follows 0 w)
    (fun _ => base) greedy _ true 0 .none w (.refl indices w) (fun _ absurd => by cases absurd) out
    (List.mem_reverse.1 member)

theorem someTurns_follows (base : Nat) (greedy : Bool) (last : Nat) (w : Way) :
    ∀ out ∈ someTurns body base greedy last w, Way.Follows indices w out := by
  intro out member
  rw [someTurns, List.mem_reverse] at member
  have first := single_follows follows last w
  have before : ∀ out ∈ Found.none.ways, Way.Follows indices w out :=
    fun _ absurd => by cases absurd
  generalize Found.none = found at before member
  generalize body last [w] = outs at first member
  induction outs generalizing found with
  | nil => exact before out member
  | cons next rest ih =>
      refine ih _ ?_ (fun out member => first out (List.mem_cons_of_mem _ member)) member
      exact Found.loop_follows (fun _ w => body last [w]) (fun _ w => single_follows follows last w)
        (fun _ => base) greedy _ true 0 found next (first next List.mem_cons_self) before

theorem throughLoop_follows (base : Nat) (greedy : Bool) (low : Nat) (w : Way) :
    ∀ out ∈ throughLoop body base greedy low w, Way.Follows indices w out := by
  intro out member
  unfold throughLoop at member
  split at member
  · split at member
    · cases member
    · rename_i next chosen
      have reached : Way.Follows indices w next := Way.follows_choose chosen
      have turned := someTurns_follows follows base greedy (low - 1) next
      split at member
      · rcases List.mem_append.1 member with through | only
        · exact reached.trans (turned out through)
        · rwa [List.mem_singleton.1 only]
      · rcases List.mem_cons.1 member with rfl | through
        · exact reached
        · exact reached.trans (turned out through)
  · exact someTurns_follows follows base greedy (low - 1) w out member

theorem runRepetition_follows (low : Nat) (high : Option Nat) (greedy consumes : Bool) (base : Nat)
    (ws : List Way) :
    ∀ out ∈ runRepetition low high greedy consumes body base ws,
      ∃ w ∈ ws, Way.Follows indices w out := by
  intro out member
  cases high with
  | some high =>
      rw [runRepetition_bounded] at member
      obtain ⟨middle, copied, turned⟩ := List.mem_flatMap.1 (Way.mem_of_distinct member)
      obtain ⟨w, start, first⟩ := copies_follows follows low 0 ws middle copied
      exact ⟨w, start, first.trans (spareTurns_follows follows base greedy low _ middle out turned)⟩
  | none =>
      rw [runRepetition_unbounded] at member
      split at member
      · obtain ⟨w, start, turned⟩ := List.mem_flatMap.1 (Way.mem_of_distinct member)
        exact ⟨w, start, anyTurns_follows follows base greedy w out turned⟩
      · obtain ⟨middle, copied, turned⟩ := List.mem_flatMap.1 (Way.mem_of_distinct member)
        obtain ⟨w, start, first⟩ := copies_follows follows (low - 1) 0 ws middle copied
        obtain ⟨inner, through, rfl⟩ := List.mem_map.1 turned
        have passed := throughLoop_follows follows base greedy low _ inner through
        exact ⟨w, start, first.trans (released_follows passed)⟩

end

/-- A way through a form follows one of the ways to it. -/
theorem run_follows (f : Form) (base : Nat) (ws : List Way) :
    ∀ out ∈ f.run base ws, ∃ w ∈ ws, Way.Follows f.indices w out := by
  induction f generalizing base ws with
  | empty => exact fun out member => ⟨out, member, .refl _ out⟩
  | literal text =>
      intro out member
      obtain ⟨w, start, taken⟩ := List.mem_filterMap.1 member
      exact ⟨w, start, Way.follows_takeText taken⟩
  | chars alphabet set =>
      intro out member
      obtain ⟨w, start, taken⟩ := List.mem_filterMap.1 member
      exact ⟨w, start, Way.follows_take taken⟩
  | look kind => exact fun out member => ⟨out, (List.mem_filter.1 member).1, .refl _ out⟩
  | repetition low high greedy body ih =>
      intro out member
      simp only [run] at member
      exact runRepetition_follows (fun turn ws => ih _ ws) low high greedy body.consumes base ws out
        member
  | capture index name body ih =>
      intro out member
      obtain ⟨w, start, closed⟩ := List.mem_flatMap.1 (Way.mem_of_distinct member)
      obtain ⟨inner, passed, rfl⟩ := List.mem_map.1 closed
      -- the body runs from one way at a time, so that it is known which one is closed
      obtain ⟨v, only, through⟩ := ih base [w] inner passed
      rw [List.mem_singleton.1 only] at through
      refine ⟨w, start, (through.mono ?_).trans (Way.follows_close ?_ _)⟩
      · exact List.subset_cons_self _ _
      · exact List.mem_cons_self
  | seq first rest ih_first ih_rest =>
      intro out member
      obtain ⟨middle, passed, last⟩ := ih_rest _ _ out member
      obtain ⟨w, start, first_follows⟩ := ih_first base ws middle passed
      refine ⟨w, start, (first_follows.mono ?_).trans (last.mono ?_)⟩
      · rw [indices, indices, captures, List.map_append]
        exact List.subset_append_left _ _
      · rw [indices, indices, captures, List.map_append]
        exact List.subset_append_right _ _
  | alt first rest ih_first ih_rest =>
      intro out member
      obtain ⟨w, start, branched⟩ := List.mem_flatMap.1 (Way.mem_of_distinct member)
      refine ⟨w, start, ?_⟩
      split at branched
      · cases branched
      · rename_i next chosen
        refine (Way.follows_choose chosen).trans ?_
        rw [indices, captures, List.map_append]
        rcases List.mem_append.1 branched with left | right
        · obtain ⟨v, only, through⟩ := ih_first _ _ out left
          rw [List.mem_singleton.1 only] at through
          exact through.mono (List.subset_append_left _ _)
        · obtain ⟨v, only, through⟩ := ih_rest _ _ out right
          rw [List.mem_singleton.1 only] at through
          exact through.mono (List.subset_append_right _ _)

/-- From ways that record no choices, the numbers of choices do not matter at all. -/
theorem run_base (f : Form) (base : Nat) {ws : List Way} (settled : ∀ w ∈ ws, w.choices = none) :
    f.run base ws = f.run 0 ws := by
  have raised_settled {ws : List Way} (settled : ∀ w ∈ ws, w.choices = none) :
      ws.map (Way.raised base) = ws := by
    refine (List.map_congr_left fun w member => ?_).trans (List.map_id ws)
    have same : raise base w.choices = w.choices := by rw [settled w member]; rfl
    rw [Way.raised, same]
    rfl
  have settled_out : ∀ out ∈ f.run 0 ws, out.choices = none := by
    intro out member
    obtain ⟨w, start, follows⟩ := run_follows f 0 ws out member
    exact follows.settled (settled w start)
  have renumbered := run_raised base 0 f ws
  rwa [raised_settled settled, raised_settled settled_out, Nat.zero_add] at renumbered

end Form

end ScriptTypes.Pattern
