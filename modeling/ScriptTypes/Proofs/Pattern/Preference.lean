import ScriptTypes.Proofs.Pattern.Factoring
import ScriptTypes.Proofs.Pattern.Sequencing
import ScriptTypes.Proofs.Unicode.CharSet

namespace ScriptTypes.Pattern

open ScriptTypes.Unicode (CharSet)

theorem findSome_cons {α β : Type} (pick : α → Option β) (a : α) (rest : List α) :
    (a :: rest).findSome? pick = (pick a).or (rest.findSome? pick) := by
  rw [List.findSome?_cons]
  cases pick a <;> rfl

theorem findSome_congr {α β : Type} {pick other : α → Option β} {l : List α}
    (same : ∀ a ∈ l, pick a = other a) : l.findSome? pick = l.findSome? other := by
  induction l with
  | nil => rfl
  | cons a rest ih =>
      rw [findSome_cons, findSome_cons, same a List.mem_cons_self,
        ih fun b member => same b (List.mem_cons_of_mem a member)]

namespace Form

def best? (f : Form) (w : Way) : Option Way := (f.run 0 [w]).head?

variable {w : Way} {ws : List Way}

theorem best_eq_run (f : Form) (base : Nat) (settled : w.choices = none) :
    (f.run base [w]).head? = f.best? w := by
  have only : ∀ v ∈ [w], v.choices = none := fun v member => List.mem_singleton.1 member ▸ settled
  rw [run_base f base only]
  rfl

theorem best_follows {f : Form} {out : Way} (best : f.best? w = some out) :
    Way.Follows f.indices w out := by
  obtain ⟨v, only, follows⟩ := run_follows f 0 [w] out (List.mem_of_mem_head? best)
  rwa [List.mem_singleton.1 only] at follows

theorem choose_settled (settled : w.choices = none) (choice : Nat) : w.choose? choice = some w := by
  rw [Way.choose?, settled]

theorem head_run_alt (first rest : Form) (base : Nat) (settled : ∀ w ∈ ws, w.choices = none) :
    ((alt first rest).run base ws).head? =
      ws.findSome? fun w => (first.best? w).or (rest.best? w) := by
  rw [run, Way.head_distinct, List.head?_flatMap]
  refine findSome_congr fun w member => ?_
  have calm := settled w member
  rw [choose_settled calm, List.head?_append, best_eq_run first _ calm, best_eq_run rest _ calm]

theorem best_alt (first rest : Form) (settled : w.choices = none) :
    (alt first rest).best? w = (first.best? w).or (rest.best? w) := by
  rw [best?, head_run_alt first rest 0 fun v member => List.mem_singleton.1 member ▸ settled]
  simp

theorem best_branches (f : Form) (settled : w.choices = none) :
    f.branches.findSome? (·.best? w) = f.best? w := by
  induction f with
  | alt first rest ih_first ih_rest =>
      rw [branches, findSome_cons, ih_rest, best_alt first rest settled]
  | _ => simp [branches]

theorem best_flat (forms : List Form) (settled : w.choices = none) :
    (forms.flatMap branches).findSome? (·.best? w) = forms.findSome? (·.best? w) := by
  induction forms with
  | nil => rfl
  | cons f rest ih =>
      rw [List.flatMap_cons, List.findSome?_append, ih, best_branches f settled, findSome_cons]

theorem best_altOf {forms : List Form} (filled : forms ≠ []) (settled : w.choices = none) :
    (altOf forms).best? w = forms.findSome? (·.best? w) := by
  induction forms with
  | nil => exact absurd rfl filled
  | cons f rest ih =>
      cases rest with
      | nil => simp [altOf]
      | cons next rest =>
          rw [altOf_cons f (List.cons_ne_nil _ _), best_alt _ _ settled, ih (List.cons_ne_nil _ _),
            findSome_cons _ f]

theorem takeText_singleton (w : Way) (c : Char) : w.takeText? [c] = w.take? (· = c) := by
  rw [Way.takeText?]
  cases w.take? (· = c) <;> rfl

theorem run_ofSet (alphabet : Alphabet) (set : CharSet) (base : Nat) (ws : List Way) :
    (ofSet alphabet set).run base ws = ws.filterMap (·.take? set.contains) := by
  unfold ofSet
  split
  · rename_i nothing
    rw [CharSet.eq_empty nothing]
    rfl
  split
  · rename_i c single
    have same : set.contains = fun d => decide (d = c) :=
      funext fun d => CharSet.contains_of_single single d
    rw [run, same]
    exact congrArg (ws.filterMap ·) (funext fun w => takeText_singleton w c)
  · rfl

theorem best_ofSet (alphabet : Alphabet) (set : CharSet) (w : Way) :
    (ofSet alphabet set).best? w = w.take? set.contains := by
  rw [best?, run_ofSet, List.head?_filterMap]
  exact List.findSome?_singleton

theorem best_of_asSet {f : Form} {set : CharSet} (same : f.asSet? = some set) (w : Way) :
    f.best? w = w.take? set.contains := by
  unfold asSet? at same
  split at same
  · cases same
    rw [best?, run, List.head?_filterMap]
    exact List.findSome?_singleton
  · rename_i c
    cases same
    have one : (CharSet.singleton c).contains = fun d => decide (d = c) :=
      funext fun d => CharSet.contains_singleton c d
    rw [best?, run, one, ← takeText_singleton, List.head?_filterMap]
    exact List.findSome?_singleton
  · cases same

theorem take_union (s t : CharSet) (w : Way) :
    w.take? (s.union t).contains = (w.take? s.contains).or (w.take? t.contains) := by
  cases rest : w.cursor.rest with
  | nil => simp [Way.take?, rest]
  | cons x more =>
      simp only [Way.take?, rest, CharSet.contains_union]
      cases s.contains x <;> cases t.contains x <;> rfl

theorem take_empty (w : Way) : w.take? CharSet.empty.contains = none := by
  cases rest : w.cursor.rest <;>
    simp [Way.take?, rest, CharSet.contains, CharSet.hasCode, CharSet.empty]

theorem best_unionSet {forms : List Form} {known set : CharSet}
    (union : unionSet? known forms = some set) (w : Way) :
    w.take? set.contains = (w.take? known.contains).or (forms.findSome? (·.best? w)) := by
  induction forms generalizing known with
  | nil =>
      cases union
      exact Option.or_none.symm
  | cons f rest ih =>
      simp only [unionSet?, bind, Option.bind_eq_some_iff] at union
      obtain ⟨own, asSet, joined⟩ := union
      rw [ih joined, take_union, ← best_of_asSet asSet, Option.or_assoc, findSome_cons]

/-- The preferred way through alternatives is that of the first one that has any. -/
theorem best_alternationOf_zero {forms : List Form} (filled : forms ≠ [])
    (settled : w.choices = none) :
    (alternationOf 0 forms).best? w = forms.findSome? (·.best? w) := by
  have flat := best_flat forms settled
  unfold alternationOf
  split <;> rename_i found
  · cases forms with
    | nil => exact absurd rfl filled
    | cons f rest =>
        rw [List.flatMap_cons, List.append_eq_nil_iff] at found
        exact absurd found.1 (branches_ne_nil f)
  · rw [← flat, found]
    simp
  · rename_i empty
    split
    · rename_i set merged
      rw [best_ofSet, best_unionSet (unionSet_of_merged merged), take_empty, Option.none_or, flat]
    · rw [← flat]
      exact best_altOf empty settled

theorem head_run_alternationOf_zero {forms : List Form} (several : 2 ≤ forms.length) (base : Nat)
    (settled : ∀ w ∈ ws, w.choices = none) :
    ((alternationOf 0 forms).run base ws).head? = ws.findSome? (alternationOf 0 forms).best? := by
  unfold alternationOf
  split <;> rename_i found
  · rw [fail, run, List.head?_filterMap]
    refine findSome_congr fun w _ => ?_
    exact (best_of_asSet (f := .chars .bytes .empty) rfl w).symm
  · rw [flat_singleton found] at several
    exact absurd several (by simp)
  · rename_i empty
    split
    · rename_i set merged
      rw [run_ofSet, List.head?_filterMap]
      exact findSome_congr fun w _ => (best_ofSet .characters set w).symm
    · cases spelled : forms.flatMap branches with
      | nil => exact absurd spelled empty
      | cons f rest =>
          cases rest with
          | nil => exact absurd spelled (found f)
          | cons next rest =>
              simp only [altOf]
              rw [head_run_alt _ _ base settled]
              exact findSome_congr fun w member => (best_alt _ _ (settled w member)).symm

end Form

end ScriptTypes.Pattern
