import ScriptTypes.Proofs.Pattern.Restarting
import ScriptTypes.Proofs.Pattern.Searching
import ScriptTypes.Proofs.Pattern.Suffix

/-!
What a pattern means with the plural group put behind its last branch. Its form is that of the
pattern with an optional empty group at the end of the last alternative.
-/

namespace ScriptTypes.Pattern

open ScriptTypes.Plural

namespace Form

variable {index : Nat} {name : String} {greedy : Bool}

theorem joinLiterals_concat (forms : List Form) {tail : Form} (filled : tail ≠ .empty)
    (plain : tail.isLiteral = false) :
    joinLiterals (forms ++ [tail]) = joinLiterals forms ++ [tail] := by
  have alone : joinLiterals [tail] = [tail] :=
    Joined.joinLiterals_eq ⟨filled, fun _ => by simp, trivial⟩
  induction forms with
  | nil => exact alone
  | cons f rest ih =>
      cases f with
      | empty => exact ih
      | literal text =>
          rw [List.cons_append, joinLiterals, joinLiterals, ih]
          cases later : joinLiterals rest with
          | nil =>
              cases tail with
              | literal more => cases plain
              | _ => rfl
          | cons next more => cases next <;> rfl
      | _ => exact congrArg (_ :: ·) ih

theorem concat_mark {forms : List Form} (tidy : ∀ f ∈ forms, Tidy f) :
    concat (forms ++ [mark index name greedy]) = concat [concat forms, mark index name greedy] := by
  have filled : mark index name greedy ≠ .empty := by simp [mark]
  have simple : ∀ f ∈ forms, ∀ p ∈ f.parts, Simple p := fun f member => (tidy f member).simple
  have behind : joinLiterals ((forms ++ [mark index name greedy]).flatMap parts) =
      joinLiterals (forms.flatMap parts) ++ [mark index name greedy] := by
    rw [List.flatMap_append, List.flatMap_singleton, parts_mark, joinLiterals_concat _ filled rfl]
  by_cases blank : joinLiterals (forms.flatMap parts) = []
  · have empty : concat forms = .empty := by rw [concat, blank]; rfl
    rw [empty, concat, behind, blank]
    rfl
  · have spelled := parts_concat simple blank
    have again : [concat forms, mark index name greedy].flatMap parts =
        joinLiterals (forms.flatMap parts) ++ [mark index name greedy] := by
      rw [← spelled]
      rfl
    have kept := ((joined_joinLiterals (forms.flatMap parts)).concat filled rfl).joinLiterals_eq
    rw [concat, behind, concat, again, kept]

def EndsOnce (f : Form) : Prop := ∀ c : Cursor, (f.run 0 [{ cursor := c }]).length ≤ 1

theorem best_alternation_singleton {f : Form} {w : Way} (tidy : Tidy f)
    (settled : w.choices = none) : (alternation [f]).best? w = f.best? w := by
  have only : ∀ g ∈ [f], Tidy g := fun g member => List.mem_singleton.1 member ▸ tidy
  by_cases apart : sharedLength (([f].flatMap branches).map parts) = 0
  · rw [alternation_unshared apart, best_alternationOf_zero (by simp) settled, List.findSome?_singleton]
  · obtain ⟨x, begins⟩ := begin_alike only apart
    obtain ⟨rest, rfl⟩ := begins f List.mem_cons_self
    rfl

theorem agree_concat_mark {f : Form} (tidy : Tidy f) (index : Nat) (name : String)
    (greedy : Bool) : Agree index f (concat [f, mark index name greedy]) := by
  intro c
  have own := rel_concat_mark (w := { cursor := c }) index name greedy [f] rfl
  rwa [concat_tidy tidy] at own

theorem agree_alternation_singleton {f : Form} (tidy : Tidy f) (index : Nat) (name : String)
    (greedy : Bool) :
    Agree index (alternation [f]) (alternation [concat [f, mark index name greedy]]) := by
  intro c
  rw [best_alternation_singleton tidy rfl, best_alternation_singleton (tidy_concat_mark tidy) rfl]
  exact agree_concat_mark tidy index name greedy c

theorem alternation_extends {fs : List Form} {f : Form} (tidy : ∀ g ∈ fs ++ [f], Tidy g)
    (fresh : index ∉ (alternation (fs ++ [f])).indices) (name : String) (greedy : Bool) :
    Extends index (alternation (fs ++ [f]))
        (alternation (fs ++ [concat [f, mark index name greedy]])) ∧
      ((fs ≠ [] → (∀ g ∈ fs, ∃ rest, g = .seq f rest) → f.EndsOnce) →
        Agree index (alternation (fs ++ [f]))
          (alternation (fs ++ [concat [f, mark index name greedy]]))) := by
  by_cases single : fs = []
  · subst single
    have agree := agree_alternation_singleton (tidy f (by simp)) index name greedy
    exact ⟨agree.extends fresh, fun _ => agree⟩
  have fresh_before : ∀ g ∈ fs, index ∉ g.indices := by
    intro g member inside
    obtain ⟨group, captured, rfl⟩ := List.mem_map.1 inside
    refine fresh (List.mem_map.2 ⟨group, ?_, rfl⟩)
    rw [alternation, mem_captures_alternationOf]
    exact List.mem_flatMap.2 ⟨g, List.mem_append_left _ member, captured⟩
  rcases alternation_marked single tidy fresh_before name greedy with related | begins
  · have agree : Agree index (alternation (fs ++ [f]))
        (alternation (fs ++ [concat [f, mark index name greedy]])) := fun c => related _ rfl
    exact ⟨agree.extends fresh, fun _ => agree⟩
  · refine ⟨⟨?_, ?_⟩, fun once c => ?_⟩
    · exact fun c => restarting_matches single tidy fresh_before begins rfl
    · exact fun c out best => restarting_ends single tidy fresh_before begins rfl best
    · exact restarting_marked single tidy fresh_before begins rfl (once single begins c)

end Form

/-- An alternation all of whose branches begin with all of the last one. -/
def Expr.Restarts (e : Expr) (last : Form) : Prop :=
  ∃ span branches before after, e = .alternation span branches ∧
    Expr.forms {} branches = .ok (before ++ [last], after) ∧ before ≠ [] ∧
      ∀ g ∈ before, ∃ rest, g = .seq last rest

theorem forms_nil (f : Flags) : Expr.forms f [] = .ok ([], f) := rfl

theorem forms_concat {f middle after : Flags} {es : List Expr} {e : Expr} {forms : List Form}
    {form : Form} (front : Expr.forms f es = .ok (forms, middle))
    (last : e.form middle = .ok (form, after)) :
    Expr.forms f (es ++ [e]) = .ok (forms ++ [form], after) := by
  induction es generalizing f forms with
  | nil =>
      cases front
      simp [Expr.forms, last, bind, Except.bind, pure, Except.pure]
  | cons first rest ih =>
      obtain ⟨⟨own, next⟩, first_meant, front⟩ := bind_eq_ok.1 front
      obtain ⟨⟨others, stop⟩, rest_meant, front⟩ := bind_eq_ok.1 front
      cases front
      simp [Expr.forms, first_meant, ih rest_meant, bind, Except.bind, pure, Except.pure]

theorem of_forms_concat {f after : Flags} {es : List Expr} {e : Expr} {forms : List Form}
    (meant : Expr.forms f (es ++ [e]) = .ok (forms, after)) :
    ∃ front middle form, Expr.forms f es = .ok (front, middle) ∧
      e.form middle = .ok (form, after) ∧ forms = front ++ [form] := by
  induction es generalizing f forms with
  | nil =>
      obtain ⟨⟨own, next⟩, own_meant, meant⟩ := bind_eq_ok.1 meant
      cases meant
      exact ⟨[], f, own, rfl, own_meant, rfl⟩
  | cons first rest ih =>
      obtain ⟨⟨own, next⟩, first_meant, meant⟩ := bind_eq_ok.1 meant
      obtain ⟨⟨others, stop⟩, rest_meant, meant⟩ := bind_eq_ok.1 meant
      cases meant
      obtain ⟨front, middle, form, front_meant, last_meant, rfl⟩ := ih rest_meant
      refine ⟨own :: front, middle, form, ?_, last_meant, rfl⟩
      simp [Expr.forms, first_meant, front_meant, bind, Except.bind, pure, Except.pure]

theorem form_close {s : Sequence} {stop : Text.Position} {f after : Flags} {form : Form} :
    (s.close stop).form f = .ok (form, after) ↔
      ∃ forms, Expr.forms f s.parts.reverse = .ok (forms, after) ∧ form = .concat forms := by
  unfold Sequence.close
  split <;> rename_i parts
  · rw [parts]
    constructor
    · intro meant
      cases meant
      exact ⟨[], rfl, rfl⟩
    · rintro ⟨forms, meant, rfl⟩
      cases meant
      rfl
  · rw [parts]
    rename_i e
    constructor
    · intro meant
      exact ⟨[form], forms_concat (forms_nil f) meant,
        (Form.concat_tidy (tidy_form e meant)).symm⟩
    · rintro ⟨forms, meant, rfl⟩
      have appended : Expr.forms f ([] ++ [e]) = .ok (forms, after) := meant
      obtain ⟨front, middle, own, nothing, meant, rfl⟩ := of_forms_concat appended
      cases nothing
      rw [List.nil_append, Form.concat_tidy (tidy_form e meant)]
      exact meant
  · constructor
    · intro meant
      obtain ⟨⟨forms, stop⟩, parts_meant, meant⟩ := bind_eq_ok.1 meant
      cases meant
      exact ⟨forms, parts_meant, rfl⟩
    · rintro ⟨forms, meant, rfl⟩
      simp [Expr.form, meant, bind, Except.bind, pure, Except.pure]

theorem form_suffixItem (p : Text.Position) (index : Nat) (f : Flags) :
    (suffixItem p index).form f = .ok (.mark index groupName f.swapGreed, f) := by
  simp [suffixItem, suffixGroup, Expr.form, Form.repeated, Form.isBlank, Form.mark, bind,
    Except.bind, pure, Except.pure]

theorem form_close_push {s : Sequence} {stop : Text.Position} {f after : Flags} {form : Form}
    (meant : (s.close stop).form f = .ok (form, after)) (p stop' : Text.Position) (index : Nat) :
    ((s.push (suffixItem p index)).close stop').form f =
      .ok (.concat [form, .mark index groupName after.swapGreed], after) := by
  obtain ⟨forms, parts_meant, rfl⟩ := form_close.1 meant
  refine form_close.2 ⟨forms ++ [.mark index groupName after.swapGreed], ?_, ?_⟩
  · rw [Sequence.push, List.reverse_cons]
    exact forms_concat parts_meant (form_suffixItem p index after)
  · exact (Form.concat_mark (tidy_forms _ parts_meant)).symm

/-- The pattern with the group behind its last branch matches wherever the pattern does, and the
group takes part at the end of the match or not at all. The preferred way is that of the pattern,
unless all branches begin with the last one and it can end in more than one place. -/
theorem conserving {branches : Option Branches} {s : Sequence} {stop : Text.Position}
    {after : Flags} {form : Form}
    (meant : (closeLevel branches s stop).form {} = .ok (form, after)) {index : Nat}
    (fresh : index ∉ form.indices) (p stop' : Text.Position) :
    ∃ extended, (closeLevel branches (s.push (suffixItem p index)) stop').form {} =
        .ok (extended, after) ∧ Form.Extends index form extended ∧
      ((∀ last, (closeLevel branches s stop).Restarts last → last.EndsOnce) →
        Form.Agree index form extended) := by
  cases branches with
  | none =>
      have agree := Form.agree_concat_mark (tidy_form _ meant) index groupName after.swapGreed
      exact ⟨_, form_close_push meant p stop' index, agree.extends fresh, fun _ => agree⟩
  | some b =>
      obtain ⟨⟨forms, last_flags⟩, branches_meant, meant⟩ := bind_eq_ok.1 meant
      cases meant
      rw [List.reverse_cons] at branches_meant
      obtain ⟨before, middle, last, before_meant, last_meant, rfl⟩ := of_forms_concat branches_meant
      have extended_meant :
          (closeLevel (some b) (s.push (suffixItem p index)) stop').form {} =
            .ok (.alternation (before ++ [.concat [last, .mark index groupName after.swapGreed]]),
              after) := by
        have forms_meant := forms_concat before_meant (form_close_push last_meant p stop' index)
        simp [closeLevel, Expr.form, forms_meant, bind, Except.bind, pure, Except.pure]
      obtain ⟨extended, agree⟩ :=
        Form.alternation_extends (tidy_forms _ branches_meant) fresh groupName after.swapGreed
      refine ⟨_, extended_meant, extended, fun once => agree fun several begins => once last ?_⟩
      refine ⟨_, _, before, after, rfl, ?_, several, begins⟩
      rw [List.reverse_cons]
      exact branches_meant

end ScriptTypes.Pattern
