import ScriptTypes.Proofs.Pattern.Settling

namespace ScriptTypes.Pattern

def namesOf (groups : List Group) : List String := groups.filterMap (·.2)

structure Numbered (groups : List Group) : Prop where
  indices : groups.map (·.1) = List.range' 1 groups.length
  distinct : (namesOf groups).Nodup

namespace Reader

structure Counted (r : Reader) : Prop where
  numbered : Numbered r.groups
  captures : r.captures = r.groups.length
  names : r.names.map (·.1) = (namesOf r.groups).reverse

variable {r s next : Reader} {c : Char} {rest : List Char}

theorem counted_initial : Counted initial where
  numbered := ⟨rfl, List.nodup_nil⟩
  captures := rfl
  names := rfl

theorem Counted.lookup_eq_none (counted : Counted r) (name : String) :
    r.names.lookup name = none ↔ name ∉ namesOf r.groups := by
  rw [List.lookup_eq_none_iff, ← List.mem_reverse, ← counted.names, List.mem_map]
  constructor
  · rintro unused ⟨given, member, rfl⟩
    simpa using unused given member
  · intro unused given member
    refine bne_iff_ne.2 fun same => unused ⟨given, member, same.symm⟩

theorem SameGroups.counted (same : SameGroups r next) (counted : Counted r) : Counted next where
  numbered := by
    rw [same.groups]
    exact counted.numbered
  captures := by rw [same.captures, same.groups, counted.captures]
  names := by rw [same.names, same.groups, counted.names]

theorem OneMore.counted {place : Text.Position} {name : Option String}
    (more : OneMore r next place name) (counted : Counted r) : Counted next where
  numbered := by
    refine ⟨?_, ?_⟩
    · rw [more.groups, List.map_append, counted.numbered.indices, List.length_append,
        List.length_singleton, List.range'_concat, counted.captures]
      simp [Nat.add_comm]
    · rw [more.groups, namesOf, List.filterMap_append]
      cases name with
      | none => simpa [namesOf] using counted.numbered.distinct
      | some name =>
          have fresh := (counted.lookup_eq_none name).1 (more.fresh name rfl)
          have apart : ∀ n ∈ namesOf r.groups, n ≠ name := by
            rintro n member rfl
            exact fresh member
          refine List.nodup_append.2 ⟨counted.numbered.distinct, by simp, ?_⟩
          intro n member other last
          rw [List.mem_singleton.1 last]
          exact apart n member
  captures := by rw [more.captures, more.groups, counted.captures, List.length_append]; rfl
  names := by
    rw [more.names, more.groups, counted.names, namesOf, namesOf, List.filterMap_append]
    cases name <;> simp

theorem step_counted (stepped : r.step c rest = .ok next) (counted : Counted r) :
    Counted next := by
  rcases step_grows stepped with same | ⟨opening, name, -, more⟩
  · exact same.counted counted
  · exact more.counted counted

theorem run_counted (text : List Char) (read : r.run text = .ok next) (counted : Counted r) :
    Counted next :=
  run_keeps (fun _ => step_counted) read counted

end Reader

/-- A text spells an expression if it can be read to its end and does not nest too deep. -/
theorem ofText_eq_ok {text : List Char} {e : Expr} :
    Expr.ofText? text = .ok e ↔
      ∃ r, Reader.initial.run text = .ok r ∧ r.finish = .ok e ∧ e.tooDeep? 0 = none := by
  simp only [Expr.ofText?, bind_eq_ok]
  constructor
  · rintro ⟨r, read, e', finished, shallow⟩
    split at shallow
    · cases shallow
    · rename_i fits
      cases shallow
      exact ⟨r, read, finished, fits⟩
  · rintro ⟨r, read, finished, fits⟩
    refine ⟨r, read, e, finished, ?_⟩
    rw [fits]
    rfl

def Expr.checked (e : Expr) : Except Fault Expr :=
  match e.tooDeep? 0 with
  | some span => .error ⟨.tooDeep depthLimit, span, none⟩
  | none => .ok e

theorem ofText_eq_checked {text : List Char} {r : Reader} {e : Expr}
    (read : Reader.initial.run text = .ok r) (finished : r.finish = .ok e) :
    Expr.ofText? text = e.checked := by
  rw [Expr.ofText?, read]
  simp only [bind, Except.bind, finished]
  rfl

/-- How a text is read: to the reader `r`, which settles where an item may begin, outside all
groups. -/
structure Reads (text : List Char) (r s : Reader) (e : Expr) : Prop where
  read : Reader.initial.run text = .ok r
  settled : r.settle = .ok s
  ready : s.mode = .sequence
  closed : s.frames = []
  spelled : e = closeLevel s.branches s.sequence s.position
  counted : Reader.Counted s
  groups : e.groups = s.groups

theorem reads_ofText {text : List Char} {e : Expr} (spelled : Expr.ofText? text = .ok e) :
    ∃ r s, Reads text r s e := by
  obtain ⟨r, read, finished, -⟩ := ofText_eq_ok.1 spelled
  obtain ⟨s, settled, ready, closed, closed_level⟩ := Reader.finish_eq_ok.1 finished
  have same := Reader.same_settle settled
  refine ⟨r, s, read, settled, ready, closed, closed_level, ?_, ?_⟩
  · exact same.counted (Reader.run_counted text read Reader.counted_initial)
  · exact (Reader.groups_finish finished).trans same.groups.symm

theorem numbered_ofText {text : List Char} {e : Expr} (spelled : Expr.ofText? text = .ok e) :
    Numbered e.groups := by
  obtain ⟨r, s, reads⟩ := reads_ofText spelled
  rw [reads.groups]
  exact reads.counted.numbered

end ScriptTypes.Pattern
