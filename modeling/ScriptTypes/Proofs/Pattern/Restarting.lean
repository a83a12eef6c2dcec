import ScriptTypes.Proofs.Pattern.Extending

/-!
Alternations in which all alternatives begin with the last one. With an optional empty group behind
it, the last alternative is taken out of them all and run first, and only then do the alternatives
differ. So the preferred way can end elsewhere, but only if there is more than one way through what
was taken out.
-/

namespace ScriptTypes.Pattern

namespace Form

variable {index : Nat} {name : String} {greedy : Bool} {w : Way} {fs : List Form} {f : Form}
  (filled : fs ≠ []) (tidy : ∀ g ∈ fs ++ [f], Tidy g) (fresh : ∀ g ∈ fs, index ∉ g.indices)
  (begins : ∀ g ∈ fs, ∃ rest, g = .seq f rest)

include filled tidy begins

theorem whole_of_begins : f.parts = [f] ∧ f ≠ .empty := by
  obtain ⟨g, member⟩ := List.exists_mem_of_ne_nil _ filled
  obtain ⟨rest, rfl⟩ := begins g member
  have own := tidy _ (List.mem_append_left _ member)
  refine ⟨(own.simple f List.mem_cons_self).whole, ?_⟩
  rcases own.joined with absurd_empty | joined
  · cases absurd_empty
  · exact joined.1

theorem best_restarting_alone (settled : w.choices = none) :
    (alternation (fs ++ [f])).best? w = (fs.findSome? (·.best? w)).or (f.best? w) := by
  have apart : sharedLength (((fs ++ [f]).flatMap branches).map parts) = 0 := by
    apply Classical.byContradiction
    intro shared
    obtain ⟨x, alike⟩ := begin_alike tidy shared
    obtain ⟨rest, sequence⟩ := alike f (by simp)
    have whole := (whole_of_begins filled tidy begins).1
    rw [sequence, parts, ← sequence] at whole
    exact parts_ne_nil rest (List.cons.inj whole).2
  rw [alternation_unshared apart, best_alternationOf_zero (by simp) settled,
    List.findSome?_append, List.findSome?_singleton]

theorem parts_restarting (index : Nat) (name : String) (greedy : Bool) :
    (concat [f, mark index name greedy]).parts = [f, mark index name greedy] := by
  obtain ⟨whole, nonempty⟩ := whole_of_begins filled tidy begins
  rw [parts_concat_mark index name greedy (tidy f (by simp)) nonempty, whole]
  rfl

include fresh

/-- With the group, the last alternative is all that the alternatives share. -/
theorem sharedLength_restarting :
    sharedLength ((fs ++ [concat [f, mark index name greedy]]).map parts) = 1 := by
  have spelled := parts_restarting filled tidy begins index name greedy
  have alike : ∀ g ∈ fs ++ [concat [f, mark index name greedy]], ∃ rest, g = .seq f rest := by
    intro g member
    rcases List.mem_append.1 member with front | last
    · exact begins g front
    · rw [List.mem_singleton.1 last]
      exact seq_of_parts spelled
  have some_shared := sharedLength_parts_iff.2 ⟨by simp, f, alike⟩
  apply Classical.byContradiction
  intro not_one
  have two : 2 ≤ sharedLength ((fs ++ [concat [f, mark index name greedy]]).map parts) := by
    omega
  obtain ⟨-, -, common, length, prefixes⟩ := (le_sharedLength_iff (by decide)).1 two
  have last := prefixes _ (List.mem_map_of_mem (List.mem_append_right fs List.mem_cons_self))
  rw [spelled] at last
  have all : common = [f, mark index name greedy] := last.eq_of_length (by rw [length]; rfl)
  obtain ⟨g, member⟩ := List.exists_mem_of_ne_nil _ filled
  have first := prefixes _ (List.mem_map_of_mem (List.mem_append_left _ member))
  refine mark_fresh name greedy (fresh g member) (first.subset ?_)
  simp [all]

theorem best_restarting_marked (settled : w.choices = none) :
    (alternation (fs ++ [concat [f, mark index name greedy]])).best? w =
      (f.run 0 [w]).findSome? fun v =>
        ((remainders 1 fs).findSome? (·.best? v)).or (some (v.mark index greedy)) := by
  have common : (((fs ++ [concat [f, mark index name greedy]]).head?.map parts).getD []).take 1 =
      [f] := by
    cases fs with
    | nil => exact absurd rfl filled
    | cons g rest =>
        obtain ⟨more, rfl⟩ := begins g List.mem_cons_self
        rfl
  rw [alternation_shared (tidy_marked tidy) (several_append filled _)
      (sharedLength_restarting filled tidy fresh begins),
    common, remainders_append, parts_restarting filled tidy begins index name greedy,
    best_concat_alternatives _ (several_append (remainders_ne_nil 1 filled) _) settled,
    concat_tidy (tidy f (by simp))]
  refine findSome_congr fun v member => ?_
  have calm : v.choices = none := run_one_settled f 0 settled v member
  have last := best_concat_mark index name greedy [] calm
  rw [List.findSome?_append, List.findSome?_singleton]
  exact congrArg _ last

theorem restarting_matches (settled : w.choices = none) :
    ((alternation (fs ++ [concat [f, mark index name greedy]])).best? w).isSome =
      ((alternation (fs ++ [f])).best? w).isSome := by
  rw [best_restarting_alone filled tidy begins settled,
    best_restarting_marked filled tidy fresh begins settled]
  cases ways : f.run 0 [w] with
  | nil =>
      have none_through : fs.findSome? (·.best? w) = none := by
        rw [List.findSome?_eq_none_iff]
        intro g member
        obtain ⟨rest, rfl⟩ := begins g member
        rw [best?, run, ways, run_nil]
        rfl
      rw [none_through, best?, ways]
      rfl
  | cons v rest => simp [best?, ways]

/-- If there is at most one way through the last alternative, taking it out changes nothing. -/
theorem restarting_marked (settled : w.choices = none) (once : (f.run 0 [w]).length ≤ 1) :
    Option.Rel (Way.Marked index) ((alternation (fs ++ [f])).best? w)
      ((alternation (fs ++ [concat [f, mark index name greedy]])).best? w) := by
  rw [best_restarting_alone filled tidy begins settled,
    best_restarting_marked filled tidy fresh begins settled]
  have calm := run_one_settled f 0 settled
  have remaining : fs.findSome? (·.best? w) =
      fs.findSome? fun g => (runAll 0 (g.parts.drop 1) (f.run 0 [w])).head? := by
    refine findSome_congr fun g member => ?_
    obtain ⟨rest, rfl⟩ := begins g member
    rw [best?, run, run_base rest _ calm, ← runAll_parts rest]
    rfl
  rw [remaining]
  cases ways : f.run 0 [w] with
  | nil =>
      simp only [runAll_nil, best?, ways, List.head?_nil, List.findSome?_nil, Option.or_none]
      have nothing : fs.findSome? (fun _ => (none : Option Way)) = none := by simp
      rw [nothing]
      exact .none
  -- with one way through it, what remains of the others is looked for behind that way alone
  | cons v rest =>
      rw [ways] at once
      obtain rfl : rest = [] := List.length_eq_zero_iff.1 (by simpa using once)
      rw [List.findSome?_singleton, best?, ways, remainders, List.findSome?_map]
      have same : fs.findSome? (fun g => (runAll 0 (g.parts.drop 1) [v]).head?) =
          fs.findSome? ((·.best? v) ∘ fun g => concat (g.parts.drop 1)) := by
        refine findSome_congr fun g _ => ?_
        rw [← run_concat]
        rfl
      rw [same]
      exact rel_or (rel_refl _) (.some (Way.marked_mark index greedy v))

theorem restarting_ends {out : Way} (settled : w.choices = none)
    (best : (alternation (fs ++ [concat [f, mark index name greedy]])).best? w = some out) :
    ∃ v, v.groups.lookup index = w.groups.lookup index ∧ Way.Marked index v out := by
  rw [best_restarting_marked filled tidy fresh begins settled] at best
  obtain ⟨v, member, best⟩ := List.exists_of_findSome?_eq_some best
  have apart {rest : Form} (member : seq f rest ∈ fs) :
      index ∉ f.indices ∧ index ∉ rest.indices := by
    have own := fresh _ member
    rw [indices, captures, List.map_append, List.mem_append, not_or] at own
    exact own
  have before : v.groups.lookup index = w.groups.lookup index := by
    obtain ⟨g, inside⟩ := List.exists_mem_of_ne_nil _ filled
    obtain ⟨rest, rfl⟩ := begins g inside
    obtain ⟨u, only, follows⟩ := run_follows f 0 [w] v member
    rw [List.mem_singleton.1 only] at follows
    exact follows.lookup (apart inside).1
  rcases Option.or_eq_some_iff.1 best with through | ⟨-, marked⟩
  · refine ⟨out, ?_, .inl rfl⟩
    obtain ⟨r, remaining, best⟩ := List.exists_of_findSome?_eq_some through
    obtain ⟨g, inside, rfl⟩ := List.mem_map.1 remaining
    obtain ⟨rest, rfl⟩ := begins g inside
    have follows := best_follows best
    have same : (concat ((seq f rest).parts.drop 1)).indices = rest.indices := by
      rw [indices, captures_concat]
      exact congrArg _ (captures_parts rest)
    rw [same] at follows
    rw [follows.lookup (apart inside).2, before]
  · cases marked
    exact ⟨v, before, Way.marked_mark index greedy v⟩

end Form

end ScriptTypes.Pattern
