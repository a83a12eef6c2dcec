import ScriptTypes.Proofs.Pattern.Marking

/-!
Searching with two forms one of which has an optional empty group at its end. Where they agree at
every place of every text on the preferred way, they find the same matches, one after the other.
-/

namespace ScriptTypes.Pattern

structure Match.Marked (index : Nat) (m out : Match) : Prop where
  extent : out.extent = m.extent
  groups : out.groups = m.groups ∨
    out.groups = (index, ⟨m.extent.stop, m.extent.stop⟩) :: m.groups

theorem Match.Marked.group {index other : Nat} {m out : Match} (marked : Match.Marked index m out)
    (apart : other ≠ index) : out.group? other = m.group? other := by
  rw [Match.group?, Match.group?, marked.extent]
  split
  · rfl
  · rcases marked.groups with same | closed
    · rw [same]
    · have missed : (other == index) = false := beq_eq_false_iff_ne.2 apart
      rw [closed, List.lookup_cons, missed]

namespace Form

def Agree (index : Nat) (f marked : Form) : Prop :=
  ∀ c : Cursor,
    Option.Rel (Way.Marked index) (f.best? { cursor := c }) (marked.best? { cursor := c })

/-- A form that has a way from where another has one, with a group that takes part at the end of the
way or not at all. -/
structure Extends (index : Nat) (f extended : Form) : Prop where
  matchesAt : ∀ c : Cursor,
    (extended.best? { cursor := c }).isSome = (f.best? { cursor := c }).isSome
  ends : ∀ (c : Cursor) (out : Way), extended.best? { cursor := c } = some out →
    ∃ v : Way, v.groups.lookup index = none ∧ Way.Marked index v out

variable {index : Nat} {f other : Form}

theorem Agree.extends (agree : Agree index f other) (fresh : index ∉ f.indices) :
    Extends index f other where
  matchesAt := by
    intro c
    have related := agree c
    generalize f.best? { cursor := c } = own at related
    generalize other.best? { cursor := c } = marked at related
    cases related <;> rfl
  ends := by
    intro c out best
    have related := agree c
    rw [best] at related
    cases own : f.best? { cursor := c } with
    | none =>
        rw [own] at related
        cases related
    | some v =>
        rw [own] at related
        cases related with
        | some marked => exact ⟨v, (best_follows own).lookup fresh, marked⟩

theorem matchAt_eq (f : Form) (c : Cursor) :
    f.matchAt? c = (f.best? { cursor := c }).map fun w =>
      (⟨⟨c.offset, w.cursor.offset⟩, w.groups⟩, w.cursor) := rfl

def SameFound (index : Nat) (found out : Match × Cursor) : Prop :=
  Match.Marked index found.1 out.1 ∧ out.2 = found.2

theorem matchAt_agree (agree : Agree index f other) (c : Cursor) :
    Option.Rel (SameFound index) (f.matchAt? c) (other.matchAt? c) := by
  rw [matchAt_eq, matchAt_eq]
  have related := agree c
  generalize f.best? { cursor := c } = own at related
  generalize other.best? { cursor := c } = marked at related
  cases related with
  | none => exact .none
  | some marked =>
      rcases marked with rfl | rfl
      · exact .some ⟨⟨rfl, .inl rfl⟩, rfl⟩
      · exact .some ⟨⟨rfl, .inr rfl⟩, rfl⟩

/-- What relates the finds at every place relates the first ones from a place on. -/
theorem findFrom_rel {R : Match × Cursor → Match × Cursor → Prop}
    (here : ∀ c, Option.Rel R (f.matchAt? c) (other.matchAt? c)) (offset : Nat)
    (before : Option Char) (text : List Char) :
    Option.Rel R (f.findFrom? offset before text) (other.findFrom? offset before text) := by
  induction text generalizing offset before with
  | nil => exact here _
  | cons x rest ih =>
      rw [findFrom?, findFrom?]
      have related := here ⟨offset, before, x :: rest⟩
      generalize f.matchAt? ⟨offset, before, x :: rest⟩ = own at related
      generalize other.matchAt? ⟨offset, before, x :: rest⟩ = found at related
      cases related with
      | none => exact ih _ _
      | some same => exact .some same

theorem firstMatch_rel {R : Match → Match → Prop}
    (here : ∀ c, Option.Rel (fun a b => R a.1 b.1) (f.matchAt? c) (other.matchAt? c))
    (text : List Char) : Option.Rel R (f.firstMatch? text) (other.firstMatch? text) := by
  have related := findFrom_rel here 0 none text
  change Option.Rel _ (Option.map _ (f.findFrom? 0 none text))
    (Option.map _ (other.findFrom? 0 none text))
  generalize f.findFrom? 0 none text = own at related
  generalize other.findFrom? 0 none text = found at related
  cases related with
  | none => exact .none
  | some same => exact .some same

theorem firstMatch_agree (agree : Agree index f other) (text : List Char) :
    Option.Rel (Match.Marked index) (f.firstMatch? text) (other.firstMatch? text) := by
  refine firstMatch_rel (fun c => ?_) text
  have related := matchAt_agree agree c
  generalize f.matchAt? c = own at related
  generalize other.matchAt? c = found at related
  cases related with
  | none => exact .none
  | some same => exact .some same.1

theorem matchesFrom_agree (agree : Agree index f other) (fuel : Nat) (last : Option Nat)
    (c : Cursor) :
    (other.matchesFrom fuel last c).map (·.extent) =
      (f.matchesFrom fuel last c).map (·.extent) := by
  induction fuel generalizing last c with
  | zero => rfl
  | succ fuel ih =>
      rw [matchesFrom, matchesFrom, find?, find?]
      have found := findFrom_rel (matchAt_agree agree) c.offset c.before c.rest
      generalize f.findFrom? c.offset c.before c.rest = own at found
      generalize other.findFrom? c.offset c.before c.rest = marked at found
      cases found with
      | none => rfl
      | some same =>
          rename_i found marked
          obtain ⟨m, stop⟩ := found
          obtain ⟨out, place⟩ := marked
          obtain ⟨⟨extent, -⟩, rfl⟩ := same
          change out.extent = m.extent at extent
          have hollow : out.isEmpty = m.isEmpty := by rw [Match.isEmpty, Match.isEmpty, extent]
          -- where the search goes on depends on where a match begins and ends, not on its groups
          simp only [hollow, extent]
          by_cases passed : (m.isEmpty && decide (last = some m.extent.stop)) = true
          · rw [if_pos passed, if_pos passed]
            cases c.next? with
            | none => rfl
            | some next => exact ih last next
          · rw [if_neg passed, if_neg passed, List.map_cons, List.map_cons, extent, ih]

theorem allMatches_agree (agree : Agree index f other) (text : List Char) :
    (other.allMatches text).map (·.extent) = (f.allMatches text).map (·.extent) :=
  matchesFrom_agree agree _ none _

theorem matchAt_extends (extended : Extends index f other) (c : Cursor) :
    Option.Rel (fun m out => out.1.extent.start = m.1.extent.start) (f.matchAt? c)
      (other.matchAt? c) := by
  have ways := extended.matchesAt c
  rw [matchAt_eq, matchAt_eq]
  generalize f.best? { cursor := c } = own at ways
  generalize other.best? { cursor := c } = marked at ways
  cases own <;> cases marked
  · exact .none
  · cases ways
  · cases ways
  · exact .some rfl

theorem firstMatch_extends (extended : Extends index f other) (text : List Char) :
    Option.Rel (fun m out : Match => out.extent.start = m.extent.start) (f.firstMatch? text)
      (other.firstMatch? text) :=
  firstMatch_rel (matchAt_extends extended) text

theorem findFrom_best {offset : Nat} {before : Option Char} {text : List Char}
    {found : Match × Cursor} (search : f.findFrom? offset before text = some found) :
    ∃ (c : Cursor) (w : Way), f.best? { cursor := c } = some w ∧
      found.1 = ⟨⟨c.offset, w.cursor.offset⟩, w.groups⟩ := by
  have at_place {c : Cursor} (here : f.matchAt? c = some found) :
      ∃ (c : Cursor) (w : Way), f.best? { cursor := c } = some w ∧
        found.1 = ⟨⟨c.offset, w.cursor.offset⟩, w.groups⟩ := by
    rw [matchAt_eq, Option.map_eq_some_iff] at here
    obtain ⟨w, best, rfl⟩ := here
    exact ⟨c, w, best, rfl⟩
  induction text generalizing offset before with
  | nil => exact at_place search
  | cons x rest ih =>
      rw [findFrom?] at search
      split at search
      · rename_i found here
        cases search
        exact at_place here
      · exact ih search

theorem firstMatch_best {text : List Char} {m : Match} (search : f.firstMatch? text = some m) :
    ∃ (c : Cursor) (w : Way), f.best? { cursor := c } = some w ∧
      m = ⟨⟨c.offset, w.cursor.offset⟩, w.groups⟩ := by
  obtain ⟨found, somewhere, rfl⟩ := Option.map_eq_some_iff.1 search
  exact findFrom_best somewhere

theorem firstMatch_ends (extended : Extends index f other) {text : List Char} {m : Match}
    (search : other.firstMatch? text = some m) :
    m.groups.lookup index = none ∨
      m.groups.lookup index = some ⟨m.extent.stop, m.extent.stop⟩ := by
  obtain ⟨c, out, best, rfl⟩ := firstMatch_best search
  obtain ⟨v, absent, rfl | rfl⟩ := extended.ends c out best
  · exact .inl absent
  · exact .inr (by simp [Way.close])

theorem firstMatch_absent (fresh : index ∉ f.indices) {text : List Char} {m : Match}
    (search : f.firstMatch? text = some m) : m.groups.lookup index = none := by
  obtain ⟨c, w, best, rfl⟩ := firstMatch_best search
  exact (best_follows best).lookup fresh

end Form

end ScriptTypes.Pattern
