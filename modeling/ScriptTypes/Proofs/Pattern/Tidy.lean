import ScriptTypes.Proofs.Pattern.Lasting
import ScriptTypes.Proofs.Pattern.Sharing

/-!
The simplified shape, and that every pattern is brought into it: sequences are flat, no literals
stand side by side in them, and alternatives share no beginning.
-/

namespace ScriptTypes.Pattern

namespace Form

def Joined : List Form → Prop
  | [] => True
  | f :: rest => f ≠ .empty ∧ (f.isLiteral → ¬ rest.head?.any isLiteral) ∧ Joined rest

structure Simple (p : Form) : Prop where
  whole : p.parts = [p]
  apart : sharedLength (p.branches.map parts) = 0

structure Tidy (f : Form) : Prop where
  simple : ∀ p ∈ f.parts, Simple p
  joined : f = .empty ∨ Joined f.parts

theorem simple_of_whole {p : Form} (whole : p.parts = [p]) (alone : p.branches = [p]) :
    Simple p := by
  refine ⟨whole, ?_⟩
  rw [alone, List.map_singleton, whole]
  rfl

theorem Simple.tidy {p : Form} (simple : Simple p) : Tidy p := by
  refine ⟨?_, ?_⟩
  · rw [simple.whole]
    exact fun q only => List.mem_singleton.1 only ▸ simple
  · rw [simple.whole]
    by_cases blank : p = .empty
    · exact .inl blank
    · exact .inr ⟨blank, fun _ => by simp, trivial⟩

theorem joined_joinLiterals (forms : List Form) : Joined (joinLiterals forms) := by
  fun_induction joinLiterals forms with
  | case1 => trivial
  | case2 rest ih => exact ih
  | case3 text rest more tail joined ih =>
      rw [joined] at ih
      exact ⟨by simp, fun _ => ih.2.1 rfl, ih.2.2⟩
  | case4 text rest joined ih =>
      refine ⟨by simp, fun _ next => ?_, ih⟩
      cases later : joinLiterals rest with
      | nil => simp [later] at next
      | cons f more =>
          cases f with
          | literal next => exact joined next more later
          | _ => simp [later, isLiteral] at next
  | case5 f rest filled plain ih =>
      refine ⟨filled, fun literal => ?_, ih⟩
      cases f with
      | literal text => exact absurd rfl (plain text)
      | _ => cases literal

theorem Joined.joinLiterals_eq {forms : List Form} (joined : Joined forms) :
    joinLiterals forms = forms := by
  fun_induction joinLiterals forms with
  | case1 => rfl
  | case2 rest ih => exact absurd rfl joined.1
  | case3 text rest more tail found ih =>
      have kept := ih joined.2.2
      have next := joined.2.1 rfl
      rw [← kept, found] at next
      exact absurd rfl next
  | case4 text rest found ih => rw [ih joined.2.2]
  | case5 f rest filled plain ih => rw [ih joined.2.2]

theorem Joined.drop {forms : List Form} (joined : Joined forms) (n : Nat) :
    Joined (forms.drop n) := by
  induction n generalizing forms with
  | zero => exact joined
  | succ n ih =>
      cases forms with
      | nil => trivial
      | cons f rest => exact ih joined.2.2

theorem Joined.concat {forms : List Form} (joined : Joined forms) {tail : Form}
    (filled : tail ≠ .empty) (plain : tail.isLiteral = false) : Joined (forms ++ [tail]) := by
  induction forms with
  | nil => exact ⟨filled, fun _ => by simp, trivial⟩
  | cons f rest ih =>
      refine ⟨joined.1, fun literal => ?_, ih joined.2.2⟩
      cases rest with
      | nil => simp [plain]
      | cons next rest => exact joined.2.1 literal

theorem mem_joinLiterals {forms : List Form} {p : Form} (member : p ∈ joinLiterals forms) :
    p ∈ forms ∨ ∃ text, p = .literal text := by
  fun_induction joinLiterals forms with
  | case1 => cases member
  | case2 rest ih => exact (ih member).imp_left (List.mem_cons_of_mem _)
  | case3 text rest more tail joined ih =>
      rcases List.mem_cons.1 member with rfl | later
      · exact .inr ⟨_, rfl⟩
      · rw [joined] at ih
        exact (ih (List.mem_cons_of_mem _ later)).imp_left (List.mem_cons_of_mem _)
  | case4 text rest joined ih =>
      rcases List.mem_cons.1 member with rfl | later
      · exact .inr ⟨_, rfl⟩
      · exact (ih later).imp_left (List.mem_cons_of_mem _)
  | case5 f rest filled plain ih =>
      rcases List.mem_cons.1 member with rfl | later
      · exact .inl List.mem_cons_self
      · exact (ih later).imp_left (List.mem_cons_of_mem _)

theorem parts_ne_nil (f : Form) : f.parts ≠ [] := by
  cases f <;> simp [parts]

theorem branches_ne_nil (f : Form) : f.branches ≠ [] := by
  cases f <;> simp [branches]

theorem seqOf_cons (f : Form) {rest : List Form} (filled : rest ≠ []) :
    seqOf (f :: rest) = .seq f (seqOf rest) := by
  cases rest with
  | nil => exact absurd rfl filled
  | cons next rest => rfl

theorem altOf_cons (f : Form) {rest : List Form} (filled : rest ≠ []) :
    altOf (f :: rest) = .alt f (altOf rest) := by
  cases rest with
  | nil => exact absurd rfl filled
  | cons next rest => rfl

theorem seqOf_parts (f : Form) : seqOf f.parts = f := by
  induction f with
  | seq first rest ih_first ih_rest => rw [parts, seqOf_cons first (parts_ne_nil rest), ih_rest]
  | _ => rfl

theorem altOf_branches (f : Form) : altOf f.branches = f := by
  induction f with
  | alt first rest ih_first ih_rest =>
      rw [branches, altOf_cons first (branches_ne_nil rest), ih_rest]
  | _ => rfl

theorem parts_seqOf {forms : List Form} (filled : forms ≠ [])
    (whole : ∀ p ∈ forms, p.parts = [p]) : (seqOf forms).parts = forms := by
  induction forms with
  | nil => exact absurd rfl filled
  | cons f rest ih =>
      cases rest with
      | nil => exact whole f List.mem_cons_self
      | cons next rest =>
          have later :=
            ih (List.cons_ne_nil _ _) fun p member => whole p (List.mem_cons_of_mem _ member)
          rw [seqOf_cons f (List.cons_ne_nil _ _), parts, later]

theorem branches_altOf (front : List Form) (last : Form) :
    (altOf (front ++ last.branches)).branches = front ++ last.branches := by
  induction front with
  | nil => rw [List.nil_append, altOf_branches]
  | cons f front ih =>
      have filled : front ++ last.branches ≠ [] := by simp [branches_ne_nil]
      rw [List.cons_append, altOf_cons f filled, branches, ih]

theorem flatMap_of_whole {pieces : Form → List Form} {forms : List Form}
    (whole : ∀ f ∈ forms, pieces f = [f]) : forms.flatMap pieces = forms := by
  induction forms with
  | nil => rfl
  | cons f rest ih =>
      rw [List.flatMap_cons, whole f List.mem_cons_self,
        ih fun g member => whole g (List.mem_cons_of_mem f member)]
      rfl

theorem parts_concat {forms : List Form} (simple : ∀ f ∈ forms, ∀ p ∈ f.parts, Simple p)
    (filled : joinLiterals (forms.flatMap parts) ≠ []) :
    (concat forms).parts = joinLiterals (forms.flatMap parts) := by
  refine parts_seqOf filled fun p member => ?_
  rcases mem_joinLiterals member with inside | ⟨text, rfl⟩
  · obtain ⟨f, member, part⟩ := List.mem_flatMap.1 inside
    exact (simple f member p part).whole
  · rfl

theorem tidy_concat {forms : List Form} (simple : ∀ f ∈ forms, ∀ p ∈ f.parts, Simple p) :
    Tidy (concat forms) := by
  by_cases blank : joinLiterals (forms.flatMap parts) = []
  · have empty : concat forms = .empty := by rw [concat, blank]; rfl
    rw [empty]
    exact (simple_of_whole rfl rfl).tidy
  · have spelled := parts_concat simple blank
    refine ⟨?_, ?_⟩
    · rw [spelled]
      intro p member
      rcases mem_joinLiterals member with inside | ⟨text, rfl⟩
      · obtain ⟨f, member, part⟩ := List.mem_flatMap.1 inside
        exact simple f member p part
      · exact simple_of_whole rfl rfl
    · rw [spelled]
      exact .inr (joined_joinLiterals _)

theorem Tidy.parts_drop {f : Form} (tidy : Tidy f) {n : Nat} (long : n < f.parts.length)
    (several : 0 < n) : (concat (f.parts.drop n)).parts = f.parts.drop n := by
  have filled : f.parts.drop n ≠ [] := by simp; omega
  have whole : ∀ p ∈ f.parts, p.parts = [p] := fun p member => (tidy.simple p member).whole
  have flat : (f.parts.drop n).flatMap parts = f.parts.drop n :=
    flatMap_of_whole fun p member => whole p (List.mem_of_mem_drop member)
  have joined : Joined f.parts := by
    rcases tidy.joined with rfl | joined
    · exact absurd long (by simp [parts]; omega)
    · exact joined
  have kept := (joined.drop n).joinLiterals_eq
  refine (parts_concat ?_ ?_).trans ?_
  · intro p member q part
    have own := List.mem_of_mem_drop member
    rw [whole p own, List.mem_singleton] at part
    exact part ▸ tidy.simple p own
  · rwa [flat, kept]
  · rw [flat, kept]

/-- If all alternatives begin alike, none of them is made of alternatives itself. -/
theorem begin_alike {forms : List Form} (tidy : ∀ f ∈ forms, Tidy f)
    (shared : sharedLength ((forms.flatMap branches).map parts) ≠ 0) :
    ∃ x, ∀ f ∈ forms, ∃ rest, f = .seq x rest := by
  obtain ⟨-, x, begins⟩ := sharedLength_parts_iff.1 shared
  refine ⟨x, fun f member => ?_⟩
  cases f with
  | seq first rest => exact begins _ (List.mem_flatMap.2 ⟨_, member, List.mem_singleton_self _⟩)
  | alt first rest =>
      have apart := ((tidy _ member).simple _ (List.mem_singleton_self _)).apart
      refine absurd apart (sharedLength_parts_iff.2 ⟨branches_ne_nil _, x, fun g branch => ?_⟩)
      exact begins g (List.mem_flatMap.2 ⟨_, member, branch⟩)
  | _ => exact begins _ (List.mem_flatMap.2 ⟨_, member, List.mem_singleton_self _⟩)

theorem flat_of_begin_alike {forms : List Form} {x : Form}
    (begins : ∀ f ∈ forms, ∃ rest, f = .seq x rest) : forms.flatMap branches = forms := by
  refine flatMap_of_whole fun f member => ?_
  obtain ⟨rest, rfl⟩ := begins f member
  rfl

end Form

end ScriptTypes.Pattern
