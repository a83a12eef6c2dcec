import ScriptTypes.Proofs.Pattern.Tidy

namespace ScriptTypes.Pattern

namespace Form

theorem asSet_seq (first rest : Form) : (seq first rest).asSet? = none := rfl

theorem unionSet_of_mem {forms : List Form} {f : Form} (member : f ∈ forms)
    (other : f.asSet? = none) (known : Unicode.CharSet) : unionSet? known forms = none := by
  induction forms generalizing known with
  | nil => cases member
  | cons g rest ih =>
      rcases List.mem_cons.1 member with rfl | later
      · simp [unionSet?, other]
      · cases g.asSet? <;> simp [unionSet?, ih later]

theorem mergedSet_of_mem {forms : List Form} {f : Form} (member : f ∈ forms)
    (other : f.asSet? = none) : mergedSet? forms = none := by
  rw [mergedSet?, unionSet_of_mem member other, ite_self]

theorem alternationOf_unshared (fuel : Nat) {forms : List Form}
    (apart : sharedLength ((forms.flatMap branches).map parts) = 0) :
    alternationOf fuel forms = alternationOf 0 forms := by
  unfold alternationOf
  split
  · rfl
  · rfl
  · split
    · rfl
    · rw [apart]
      cases fuel <;> rfl

def remainders (n : Nat) (forms : List Form) : List Form :=
  forms.map fun f => concat (f.parts.drop n)

theorem alternationOf_shared {fuel n : Nat} {forms : List Form} {x : Form}
    (begins : ∀ f ∈ forms, ∃ rest, f = .seq x rest) (several : 2 ≤ forms.length)
    (shared : sharedLength (forms.map parts) = n + 1) :
    alternationOf (fuel + 1) forms =
      concat (((forms.head?.map parts).getD []).take (n + 1) ++
        [alternationOf fuel (remainders (n + 1) forms)]) := by
  have flat := flat_of_begin_alike begins
  have no_set : mergedSet? forms = none := by
    cases forms with
    | nil => cases several
    | cons f rest =>
        obtain ⟨more, rfl⟩ := begins f List.mem_cons_self
        exact mergedSet_of_mem List.mem_cons_self (asSet_seq x more)
  rw [alternationOf]
  split <;> rename_i found
  · rw [flat] at found
    rw [found] at several
    cases several
  · rw [flat] at found
    rw [found] at several
    simp at several
  · rw [flat, no_set]
    simp only
    rw [shared]
    rfl

theorem simple_drop {f : Form} (tidy : Tidy f) (n : Nat) :
    ∀ g ∈ f.parts.drop n, ∀ p ∈ g.parts, Simple p := by
  intro g member p part
  have own := tidy.simple g (List.mem_of_mem_drop member)
  rw [own.whole, List.mem_singleton] at part
  exact part ▸ own

theorem tidy_remainders {n : Nat} {forms : List Form} (tidy : ∀ f ∈ forms, Tidy f) :
    ∀ r ∈ remainders n forms, Tidy r := by
  intro r member
  obtain ⟨f, own, rfl⟩ := List.mem_map.1 member
  exact tidy_concat (simple_drop (tidy f own) n)

/-- Once the shared beginning is taken out, alternatives share nothing. -/
theorem remainders_apart {n : Nat} {forms : List Form} (tidy : ∀ f ∈ forms, Tidy f)
    (shared : sharedLength (forms.map parts) = n + 1) :
    sharedLength (((remainders (n + 1) forms).flatMap branches).map parts) = 0 := by
  apply Classical.byContradiction
  intro more
  obtain ⟨x, begins⟩ := begin_alike (tidy_remainders tidy) more
  have spelled : (remainders (n + 1) forms).map parts =
      (forms.map parts).map (·.drop (n + 1)) := by
    rw [remainders, List.map_map, List.map_map]
    refine List.map_congr_left fun f member => ?_
    obtain ⟨rest, sequence⟩ := begins _ (List.mem_map_of_mem member)
    refine (tidy f member).parts_drop (Nat.lt_of_not_le fun short => ?_) (Nat.succ_pos n)
    rw [List.drop_eq_nil_of_le short] at sequence
    cases sequence
  have apart := sharedLength_drop (Nat.succ_pos n) shared
  rw [← spelled] at apart
  refine sharedLength_parts_iff.2 ⟨?_, x, begins⟩ apart
  intro none_left
  rw [remainders, List.map_eq_nil_iff] at none_left
  rw [none_left] at shared
  cases shared

theorem alternation_shared {n : Nat} {forms : List Form} (tidy : ∀ f ∈ forms, Tidy f)
    (several : 2 ≤ forms.length) (shared : sharedLength (forms.map parts) = n + 1) :
    alternation forms =
      concat (((forms.head?.map parts).getD []).take (n + 1) ++
        [alternationOf 0 (remainders (n + 1) forms)]) := by
  have fueled : ∃ fuel, forms.foldr (fun f n => f.size + n) 1 = fuel + 1 := by
    refine ⟨forms.foldr (fun f n => f.size + n) 1 - 1, ?_⟩
    have positive : 1 ≤ forms.foldr (fun f n => f.size + n) 1 := by
      clear tidy several shared
      induction forms with
      | nil => exact Nat.le_refl 1
      | cons f rest ih => exact Nat.le_trans ih (Nat.le_add_left _ _)
    omega
  obtain ⟨fuel, spelled⟩ := fueled
  obtain ⟨-, x, begins⟩ := sharedLength_parts_iff.1 (by rw [shared]; exact Nat.succ_ne_zero n)
  rw [alternation, spelled, alternationOf_shared begins several shared,
    alternationOf_unshared fuel (remainders_apart tidy shared)]

theorem alternation_unshared {forms : List Form}
    (apart : sharedLength ((forms.flatMap branches).map parts) = 0) :
    alternation forms = alternationOf 0 forms := alternationOf_unshared _ apart

theorem branches_singleton {f g : Form} (alone : g.branches = [f]) : g = f := by
  rw [← altOf_branches g, alone]
  rfl

theorem flat_singleton {forms : List Form} {f : Form} (alone : forms.flatMap branches = [f]) :
    forms = [f] := by
  cases forms with
  | nil => cases alone
  | cons g rest =>
      rw [List.flatMap_cons] at alone
      rcases List.append_eq_singleton_iff.1 alone with ⟨absurd_nil, -⟩ | ⟨only, none_left⟩
      · exact absurd absurd_nil (branches_ne_nil g)
      · cases rest with
        | nil => rw [branches_singleton only]
        | cons next rest =>
            rw [List.flatMap_cons, List.append_eq_nil_iff] at none_left
            exact absurd none_left.1 (branches_ne_nil next)

theorem tidy_ofSet (alphabet : Alphabet) (set : Unicode.CharSet) : Tidy (ofSet alphabet set) := by
  unfold ofSet
  split
  · exact (simple_of_whole rfl rfl).tidy
  split
  · exact (simple_of_whole rfl rfl).tidy
  · exact (simple_of_whole rfl rfl).tidy

theorem branches_altOf_flat {forms : List Form} (filled : forms ≠ []) :
    (altOf (forms.flatMap branches)).branches = forms.flatMap branches := by
  rcases List.eq_nil_or_concat forms with rfl | ⟨front, last, rfl⟩
  · exact absurd rfl filled
  · rw [List.concat_eq_append, List.flatMap_append, List.flatMap_singleton]
    exact branches_altOf _ last

theorem tidy_alternationOf_zero {forms : List Form} (tidy : ∀ f ∈ forms, Tidy f)
    (apart : sharedLength ((forms.flatMap branches).map parts) = 0) :
    Tidy (alternationOf 0 forms) := by
  unfold alternationOf
  split
  · exact (simple_of_whole rfl rfl).tidy
  · rename_i f alone
    rw [flat_singleton alone] at tidy
    exact tidy f (List.mem_singleton_self f)
  · rename_i empty single
    split
    · exact tidy_ofSet _ _
    · have filled : forms ≠ [] := by
        intro same
        subst same
        exact empty rfl
      have whole : (altOf (forms.flatMap branches)).parts = [altOf (forms.flatMap branches)] := by
        cases spelled : forms.flatMap branches with
        | nil => exact absurd spelled empty
        | cons f rest =>
            cases rest with
            | nil => exact absurd spelled (single f)
            | cons next rest => rfl
      refine Simple.tidy ⟨whole, ?_⟩
      rw [branches_altOf_flat filled]
      exact apart

theorem tidy_alternation {forms : List Form} (tidy : ∀ f ∈ forms, Tidy f) :
    Tidy (alternation forms) := by
  by_cases apart : sharedLength ((forms.flatMap branches).map parts) = 0
  · rw [alternation_unshared apart]
    exact tidy_alternationOf_zero tidy apart
  · obtain ⟨x, begins⟩ := begin_alike tidy apart
    rw [flat_of_begin_alike begins] at apart
    obtain ⟨n, shared⟩ := Nat.exists_eq_succ_of_ne_zero apart
    cases forms with
    | nil => cases shared
    | cons f rest =>
        cases rest with
        | nil =>
            -- a single alternative is the alternation
            obtain ⟨more, rfl⟩ := begins f List.mem_cons_self
            have alone : alternation [seq x more] = seq x more := rfl
            rw [alone]
            exact tidy _ List.mem_cons_self
        | cons next rest =>
            rw [alternation_shared tidy (by simp) shared]
            refine tidy_concat fun g member p part => ?_
            rcases List.mem_append.1 member with front | behind
            · have own := (tidy f List.mem_cons_self).simple g (List.mem_of_mem_take front)
              rw [own.whole, List.mem_singleton] at part
              exact part ▸ own
            · rw [List.mem_singleton.1 behind] at part
              exact (tidy_alternationOf_zero (tidy_remainders tidy)
                (remainders_apart tidy shared)).simple p part

theorem tidy_repeated (low : Nat) (high : Option Nat) (greedy : Bool) {body : Form}
    (tidy : Tidy body) : Tidy (repeated low high greedy body) := by
  rw [repeated_eq]
  dsimp only
  split
  · exact (simple_of_whole rfl rfl).tidy
  · split
    · exact tidy
    · exact (simple_of_whole rfl rfl).tidy

end Form

theorem tidy_atom {f : Flags} {a : Atom} {form : Form} (meant : a.form f = .ok form) :
    Form.Tidy form := by
  rcases form_atom meant with ⟨alphabet, set, rfl⟩ | ⟨c, rfl⟩ | ⟨kind, rfl⟩
  · exact Form.tidy_ofSet alphabet set
  · exact (Form.simple_of_whole rfl rfl).tidy
  · exact (Form.simple_of_whole rfl rfl).tidy

mutual

theorem tidy_form (e : Expr) {f after : Flags} {form : Form}
    (meant : e.form f = .ok (form, after)) : Form.Tidy form := by
  match e with
  | .empty _ =>
      cases meant
      exact (Form.simple_of_whole rfl rfl).tidy
  | .flags _ _ =>
      cases meant
      exact (Form.simple_of_whole rfl rfl).tidy
  | .atom _ =>
      obtain ⟨atom, spelled, meant⟩ := bind_eq_ok.1 meant
      cases meant
      exact tidy_atom spelled
  | .bracketed _ _ _ =>
      obtain ⟨_, -, meant⟩ := bind_eq_ok.1 meant
      obtain ⟨_, -, meant⟩ := bind_eq_ok.1 meant
      cases meant
      exact Form.tidy_ofSet _ _
  | .repetition _ _ _ _ body =>
      obtain ⟨⟨inner, _⟩, inner_meant, meant⟩ := bind_eq_ok.1 meant
      cases meant
      exact Form.tidy_repeated _ _ _ (tidy_form body inner_meant)
  | .group _ (.capture _ _) body =>
      obtain ⟨⟨inner, _⟩, inner_meant, meant⟩ := bind_eq_ok.1 meant
      cases meant
      exact (Form.simple_of_whole rfl rfl).tidy
  | .group _ (.plain _) body =>
      obtain ⟨⟨inner, _⟩, inner_meant, meant⟩ := bind_eq_ok.1 meant
      cases meant
      exact tidy_form body inner_meant
  | .concat _ parts =>
      obtain ⟨⟨forms, _⟩, parts_meant, meant⟩ := bind_eq_ok.1 meant
      cases meant
      exact Form.tidy_concat fun form member => (tidy_forms parts parts_meant form member).simple
  | .alternation _ branches =>
      obtain ⟨⟨forms, _⟩, branches_meant, meant⟩ := bind_eq_ok.1 meant
      cases meant
      exact Form.tidy_alternation (tidy_forms branches branches_meant)

theorem tidy_forms (es : List Expr) {f after : Flags} {forms : List Form}
    (meant : Expr.forms f es = .ok (forms, after)) : ∀ form ∈ forms, Form.Tidy form := by
  match es with
  | [] =>
      cases meant
      exact fun _ absurd => by cases absurd
  | e :: rest =>
      obtain ⟨⟨first, _⟩, first_meant, meant⟩ := bind_eq_ok.1 meant
      obtain ⟨⟨others, _⟩, rest_meant, meant⟩ := bind_eq_ok.1 meant
      cases meant
      exact List.forall_mem_cons.2 ⟨tidy_form e first_meant, tidy_forms rest rest_meant⟩

end

end ScriptTypes.Pattern
