import ScriptTypes.Proofs.Pattern.Loops
import ScriptTypes.Proofs.Pattern.Preference

/-!
Forms with an optional empty group at their end. The group changes nothing of where a form matches
and which other groups take part; if it takes part itself, then at the end of the match.
-/

namespace ScriptTypes.Pattern

def Way.Marked (index : Nat) (w out : Way) : Prop :=
  out = w ∨ out = w.close index w.cursor.offset

/-- Goes through an empty group, if that is preferred to going past it. -/
def Way.mark (index : Nat) (greedy : Bool) (w : Way) : Way :=
  if greedy then w.close index w.cursor.offset else w

theorem Way.marked_mark (index : Nat) (greedy : Bool) (w : Way) :
    Way.Marked index w (w.mark index greedy) := by
  cases greedy with
  | true => exact .inr rfl
  | false => exact .inl rfl

theorem rel_or {α β : Type} {r : α → β → Prop} {a a' : Option α} {b b' : Option β}
    (first : Option.Rel r a b) (second : Option.Rel r a' b') :
    Option.Rel r (a.or a') (b.or b') := by
  cases first with
  | some related => exact .some related
  | none => exact second

theorem rel_findSome {α β γ : Type} {r : β → γ → Prop} {pick : α → Option β}
    {other : α → Option γ} {l : List α} (related : ∀ a ∈ l, Option.Rel r (pick a) (other a)) :
    Option.Rel r (l.findSome? pick) (l.findSome? other) := by
  induction l with
  | nil => exact .none
  | cons a rest ih =>
      rw [findSome_cons, findSome_cons]
      refine rel_or (related a List.mem_cons_self) ?_
      exact ih fun b member => related b (List.mem_cons_of_mem a member)

namespace Form

def mark (index : Nat) (name : String) (greedy : Bool) : Form :=
  .repetition 0 (some 1) greedy (.capture index (some name) .empty)

variable {index : Nat} {name : String} {greedy : Bool} {w : Way} {ws : List Way}

theorem spareTurns_one (body : Nat → List Way → List Way) (base : Nat)
    (settled : w.choices = none) :
    spareTurns body base greedy 0 1 w =
      if greedy then body 0 [w] ++ [w] else w :: body 0 [w] := by
  unfold spareTurns
  cases greedy <;> simp [Found.loop, choose_settled settled, Found.none, Found.ways_foldl_add]

theorem run_optionally (greedy : Bool) (body : Form) (base : Nat) (settled : w.choices = none) :
    (repetition 0 (some 1) greedy body).run base [w] =
      Way.distinct
        (if greedy then body.run (base + 1) [w] ++ [w] else w :: body.run (base + 1) [w]) := by
  rw [run, runRepetition_bounded, copies, List.flatMap_singleton, Nat.sub_zero,
    spareTurns_one _ _ settled, Nat.zero_mul, Nat.add_zero]

theorem head_run_mark (base : Nat) (settled : ∀ w ∈ ws, w.choices = none) :
    ((mark index name greedy).run base ws).head? = ws.head?.map (Way.mark index greedy) := by
  rw [mark, run, runRepetition_bounded, Way.head_distinct, List.head?_flatMap, copies]
  cases ws with
  | nil => rfl
  | cons w rest =>
      have calm := settled w List.mem_cons_self
      rw [findSome_cons, Nat.sub_zero, spareTurns_one _ base calm]
      cases greedy <;> simp [run, Way.distinct, Way.distinct.keep, Way.mark]

theorem best_concat_mark (index : Nat) (name : String) (greedy : Bool) (forms : List Form)
    (settled : w.choices = none) :
    (concat (forms ++ [mark index name greedy])).best? w =
      ((concat forms).best? w).map (Way.mark index greedy) := by
  have only : ∀ v ∈ [w], v.choices = none := fun v member => List.mem_singleton.1 member ▸ settled
  rw [best?, run_concat_append, runAll, runAll, head_run_mark _ (run_settled _ 0 only)]
  rfl

theorem rel_concat_mark (index : Nat) (name : String) (greedy : Bool) (forms : List Form)
    (settled : w.choices = none) :
    Option.Rel (Way.Marked index) ((concat forms).best? w)
      ((concat (forms ++ [mark index name greedy])).best? w) := by
  rw [best_concat_mark index name greedy forms settled]
  cases (concat forms).best? w with
  | none => exact .none
  | some out => exact .some (Way.marked_mark index greedy out)

theorem parts_mark : (mark index name greedy).parts = [mark index name greedy] := rfl

theorem simple_mark : Simple (mark index name greedy) := simple_of_whole rfl rfl

theorem concat_tidy {f : Form} (tidy : Tidy f) : concat [f] = f := by
  rw [concat, List.flatMap_singleton]
  rcases tidy.joined with rfl | joined
  · rfl
  · rw [joined.joinLiterals_eq, seqOf_parts]

theorem parts_concat_mark (index : Nat) (name : String) (greedy : Bool) {f : Form} (tidy : Tidy f)
    (filled : f ≠ .empty) :
    (concat [f, mark index name greedy]).parts = f.parts ++ [mark index name greedy] := by
  have joined : Joined f.parts := by
    rcases tidy.joined with rfl | joined
    · exact absurd rfl filled
    · exact joined
  have flat : [f, mark index name greedy].flatMap parts = f.parts ++ [mark index name greedy] := rfl
  have kept : joinLiterals (f.parts ++ [mark index name greedy]) =
      f.parts ++ [mark index name greedy] :=
    (joined.concat (by simp [mark]) rfl).joinLiterals_eq
  have simple : ∀ g ∈ [f, mark index name greedy], ∀ p ∈ g.parts, Simple p := by
    intro g member p part
    rcases List.mem_cons.1 member with rfl | later
    · exact tidy.simple p part
    · rw [List.mem_singleton.1 later, parts_mark, List.mem_singleton] at part
      exact part ▸ simple_mark
  refine (parts_concat simple ?_).trans ?_
  · rw [flat, kept]
    simp
  · rw [flat, kept]

theorem tidy_concat_mark {f : Form} (tidy : Tidy f) :
    Tidy (concat [f, mark index name greedy]) := by
  refine tidy_concat fun g member p part => ?_
  rcases List.mem_cons.1 member with rfl | later
  · exact tidy.simple p part
  · rw [List.mem_singleton.1 later, parts_mark, List.mem_singleton] at part
    exact part ▸ simple_mark

end Form

end ScriptTypes.Pattern
