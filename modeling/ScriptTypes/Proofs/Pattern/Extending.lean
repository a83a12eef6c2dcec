import ScriptTypes.Proofs.Pattern.Marking

/-!
Alternations whose last alternative gets an optional empty group. Simplifying takes the same
beginning out of the alternatives with and without the group, but for one case: if all other
alternatives begin with all of the last one, then only the group makes it a sequence, and it is
taken out of them all.
-/

namespace ScriptTypes.Pattern

namespace Form

variable {index : Nat} {name : String} {greedy : Bool} {w : Way} {fs : List Form} {f : Form}

theorem mark_fresh (name : String) (greedy : Bool) {g : Form} (fresh : index ∉ g.indices) :
    mark index name greedy ∉ g.parts := by
  intro member
  refine fresh (List.mem_map.2 ⟨(index, some name), ?_, rfl⟩)
  rw [← captures_parts]
  exact List.mem_flatMap.2 ⟨_, member, List.mem_singleton_self _⟩

theorem seq_of_parts {x p : Form} {rest : List Form} (spelled : f.parts = x :: p :: rest) :
    ∃ more, f = .seq x more := by
  cases f with
  | seq first more =>
      obtain rfl : first = x := (List.cons.inj spelled).1
      exact ⟨more, rfl⟩
  | _ => cases spelled

theorem seq_concat_mark {x more : Form} (tidy : Tidy (seq x more)) :
    ∃ rest, concat [seq x more, mark index name greedy] = .seq x rest := by
  have spelled := parts_concat_mark index name greedy tidy (by simp)
  cases behind : more.parts with
  | nil => exact absurd behind (parts_ne_nil more)
  | cons p rest =>
      rw [parts, behind] at spelled
      exact seq_of_parts spelled

theorem tidy_marked (tidy : ∀ g ∈ fs ++ [f], Tidy g) :
    ∀ g ∈ fs ++ [concat [f, mark index name greedy]], Tidy g := by
  intro g member
  rcases List.mem_append.1 member with front | last
  · exact tidy g (List.mem_append_left _ front)
  · rw [List.mem_singleton.1 last]
    exact tidy_concat_mark (tidy f (by simp))

theorem unshared_of_marked (tidy : ∀ g ∈ fs ++ [f], Tidy g)
    (apart : sharedLength
      (((fs ++ [concat [f, mark index name greedy]]).flatMap branches).map parts) = 0) :
    sharedLength (((fs ++ [f]).flatMap branches).map parts) = 0 := by
  apply Classical.byContradiction
  intro shared
  obtain ⟨x, begins⟩ := begin_alike tidy shared
  obtain ⟨more, rfl⟩ := begins f (by simp)
  have begins' : ∀ g ∈ fs ++ [concat [seq x more, mark index name greedy]],
      ∃ rest, g = .seq x rest := by
    intro g member
    rcases List.mem_append.1 member with front | last
    · exact begins g (List.mem_append_left _ front)
    · rw [List.mem_singleton.1 last]
      exact seq_concat_mark (tidy _ (by simp))
  rw [flat_of_begin_alike begins'] at apart
  exact sharedLength_parts_iff.2 ⟨by simp, x, begins'⟩ apart

theorem best_concat_alternatives (common : List Form) {forms : List Form}
    (several : 2 ≤ forms.length) (settled : w.choices = none) :
    (concat (common ++ [alternationOf 0 forms])).best? w =
      ((concat common).run 0 [w]).findSome? fun v => forms.findSome? (·.best? v) := by
  have calm := run_one_settled (concat common) 0 settled
  have filled : forms ≠ [] := by
    intro same
    subst same
    cases several
  rw [best?, run_concat_append, runAll, runAll, head_run_alternationOf_zero several _ calm]
  exact findSome_congr fun v member => best_alternationOf_zero filled (calm v member)

theorem remainders_append (n : Nat) (fs : List Form) (f : Form) :
    remainders n (fs ++ [f]) = remainders n fs ++ [concat (f.parts.drop n)] := by
  simp [remainders]

theorem several_append (filled : fs ≠ []) (f : Form) : 2 ≤ (fs ++ [f]).length := by
  have := List.length_pos_iff.2 filled
  simp
  omega

theorem remainders_ne_nil (n : Nat) (filled : fs ≠ []) : remainders n fs ≠ [] := by
  simpa [remainders] using filled

theorem head_append (filled : fs ≠ []) (f g : Form) :
    (fs ++ [f]).head? = (fs ++ [g]).head? := by
  cases fs with
  | nil => exact absurd rfl filled
  | cons first rest => rfl

theorem rel_refl (a : Option Way) : Option.Rel (Way.Marked index) a a := by
  cases a with
  | none => exact .none
  | some w => exact .some (.inl rfl)

theorem unshared_marked (tidy : ∀ g ∈ fs ++ [f], Tidy g)
    (settled : w.choices = none)
    (apart : sharedLength
      (((fs ++ [concat [f, mark index name greedy]]).flatMap branches).map parts) = 0) :
    Option.Rel (Way.Marked index) ((alternation (fs ++ [f])).best? w)
      ((alternation (fs ++ [concat [f, mark index name greedy]])).best? w) := by
  rw [alternation_unshared apart, alternation_unshared (unshared_of_marked tidy apart),
    best_alternationOf_zero (by simp) settled, best_alternationOf_zero (by simp) settled,
    List.findSome?_append, List.findSome?_append]
  refine rel_or (rel_refl _) ?_
  rw [List.findSome?_singleton, List.findSome?_singleton]
  have own := rel_concat_mark index name greedy [f] settled
  rwa [concat_tidy (tidy f (by simp))] at own

theorem sharedLength_marked (filled : fs ≠ []) (tidy : Tidy f)
    (fresh : ∀ g ∈ fs, index ∉ g.indices) (long : 2 ≤ f.parts.length) :
    sharedLength ((fs ++ [concat [f, mark index name greedy]]).map parts) =
      sharedLength ((fs ++ [f]).map parts) := by
  have nonempty : f ≠ .empty := by
    intro same
    subst same
    exact absurd long (by decide)
  have fresh_lists : ∀ l ∈ fs.map parts, mark index name greedy ∉ l := by
    intro l member
    obtain ⟨g, own, rfl⟩ := List.mem_map.1 member
    exact mark_fresh name greedy (fresh g own)
  rw [List.map_append, List.map_append, List.map_singleton, List.map_singleton,
    parts_concat_mark index name greedy tidy nonempty]
  exact sharedLength_append_fresh (by simpa using filled) fresh_lists long

/-- If the last alternative is a sequence, the same beginning is taken out of it. -/
theorem shared_marked {n : Nat} (filled : fs ≠ []) (tidy : ∀ g ∈ fs ++ [f], Tidy g)
    (fresh : ∀ g ∈ fs, index ∉ g.indices) (settled : w.choices = none) (long : 2 ≤ f.parts.length)
    (shared : sharedLength ((fs ++ [concat [f, mark index name greedy]]).map parts) = n + 1) :
    Option.Rel (Way.Marked index) ((alternation (fs ++ [f])).best? w)
      ((alternation (fs ++ [concat [f, mark index name greedy]])).best? w) := by
  have nonempty : f ≠ .empty := by
    intro same
    subst same
    exact absurd long (by decide)
  have spelled := parts_concat_mark index name greedy (tidy f (by simp)) nonempty
  have same : sharedLength ((fs ++ [f]).map parts) = n + 1 := by
    rw [← shared, sharedLength_marked filled (tidy f (by simp)) fresh long]
  have within : n + 1 ≤ f.parts.length := by
    obtain ⟨-, -, common, length, begins⟩ :=
      (le_sharedLength_iff (Nat.succ_pos n)).1 (Nat.le_of_eq same.symm)
    have own := (begins f.parts (List.mem_map_of_mem (by simp))).length_le
    omega
  have left := remainders_ne_nil (n + 1) filled
  rw [alternation_shared tidy (several_append filled _) same,
    alternation_shared (tidy_marked tidy) (several_append filled _) shared,
    remainders_append, remainders_append, spelled, List.drop_append_of_le_length within,
    head_append filled f (concat [f, mark index name greedy]),
    best_concat_alternatives _ (several_append left _) settled,
    best_concat_alternatives _ (several_append left _) settled]
  refine rel_findSome fun v member => ?_
  have calm : v.choices = none := run_one_settled _ 0 settled v member
  rw [List.findSome?_append, List.findSome?_append]
  refine rel_or (rel_refl _) ?_
  rw [List.findSome?_singleton, List.findSome?_singleton]
  exact rel_concat_mark index name greedy _ calm

/-- The group changes nothing but at the end of a match, unless all alternatives before the last one
are the last one and something more. -/
theorem alternation_marked (filled : fs ≠ []) (tidy : ∀ g ∈ fs ++ [f], Tidy g)
    (fresh : ∀ g ∈ fs, index ∉ g.indices) (name : String) (greedy : Bool) :
    (∀ w : Way, w.choices = none →
      Option.Rel (Way.Marked index) ((alternation (fs ++ [f])).best? w)
        ((alternation (fs ++ [concat [f, mark index name greedy]])).best? w)) ∨
      ∀ g ∈ fs, ∃ rest, g = .seq f rest := by
  by_cases apart : sharedLength
      (((fs ++ [concat [f, mark index name greedy]]).flatMap branches).map parts) = 0
  · exact .inl fun w settled => unshared_marked tidy settled apart
  · obtain ⟨x, begins⟩ := begin_alike (tidy_marked tidy) apart
    rw [flat_of_begin_alike begins] at apart
    obtain ⟨n, shared⟩ := Nat.exists_eq_succ_of_ne_zero apart
    by_cases long : 2 ≤ f.parts.length
    · exact .inl fun w settled => shared_marked filled tidy fresh settled long shared
    · -- the group alone makes the last alternative a sequence
      refine .inr fun g member => ?_
      obtain ⟨rest, sequence⟩ := begins (concat [f, mark index name greedy]) (by simp)
      have nonempty : f ≠ .empty := by
        intro same
        subst same
        cases sequence
      have spelled := parts_concat_mark index name greedy (tidy f (by simp)) nonempty
      have whole : f.parts = [f] := by
        cases f with
        | seq first more =>
            have := List.length_pos_iff.2 (parts_ne_nil more)
            simp only [parts, List.length_cons] at long
            omega
        | _ => rfl
      rw [sequence, whole] at spelled
      obtain rfl : x = f := (List.cons.inj spelled).1
      exact begins g (List.mem_append_left _ member)

end Form

end ScriptTypes.Pattern
