import ScriptTypes.Pattern.Meaning
import ScriptTypes.Proofs.Pattern.Groups
import ScriptTypes.Proofs.Unicode.PropertyName

namespace ScriptTypes.Pattern

open ScriptTypes.Text

def Expr.Meaningless (e : Expr) : Prop := ∀ f result, e.form f ≠ .ok result

variable {e : Expr}

theorem meaningless_property {query : Unicode.PropertyQuery} {failure : Unicode.PropertyFailure}
    (unlisted : query.set = .error failure) (span : Span) (negated : Bool) :
    (Expr.atom (.property span query negated)).Meaningless := by
  intro f result meant
  obtain ⟨form, spelled, -⟩ := bind_eq_ok.1 meant
  obtain ⟨set, found, -⟩ := bind_eq_ok.1 spelled
  rw [Flags.propertySet, unlisted] at found
  split at found
  · cases found
  · cases failure <;> cases found

theorem eq_of_divide {mark text name value : List Char}
    (divided : propertyQuery.divide mark text = some (name, value)) :
    text = name ++ mark ++ value := by
  induction text generalizing name with
  | nil => cases divided
  | cons c rest ih =>
      rw [propertyQuery.divide] at divided
      split at divided
      · rename_i begins
        obtain ⟨tail, same⟩ := List.isPrefixOf_iff_prefix.1 begins
        rw [← same, List.drop_left] at divided
        cases divided
        exact same.symm
      · obtain ⟨⟨front, back⟩, later, same⟩ := Option.map_eq_some_iff.1 divided
        cases same
        rw [ih later]
        rfl

/-- A name with a character in it that stands in no name asks for nothing. -/
theorem set_propertyQuery {d : Char} (strange : d ∈ Unicode.nameless) {text : List Char}
    (inside : d ∈ text) : ∃ failure, (propertyQuery text).set = .error failure := by
  have apart : Unicode.nameless.all (· ∉ ['!', '=', ':']) = true := by decide
  have no_mark : d ∉ ['!', '=', ':'] := of_decide_eq_true (List.all_eq_true.1 apart d strange)
  have valued {mark name value : List Char} (marks : ∀ c ∈ mark, c ∈ ['!', '=', ':'])
      (divided : propertyQuery.divide mark text = some (name, value)) :
      ∃ failure, Unicode.setByValue (.ofList name) (.ofList value) = .error failure := by
    rw [eq_of_divide divided, List.mem_append, List.mem_append] at inside
    refine Unicode.setByValue_nameless strange ?_
    rw [String.toList_ofList, String.toList_ofList]
    rcases inside with (before | mark) | behind
    · exact .inl before
    · exact absurd (marks d mark) no_mark
    · exact .inr behind
  unfold propertyQuery
  split
  · rename_i divided
    exact valued (by simp) divided
  split
  · rename_i divided
    exact valued (by simp) divided
  split
  · rename_i divided
    exact valued (by simp) divided
  · refine ⟨.noProperty, Unicode.setByName_nameless strange ?_⟩
    rw [String.toList_ofList]
    exact inside

theorem meaningless_repetition (hopeless : e.Meaningless) (span : Span) (low : Nat)
    (high : Option Nat) (greedy : Bool) : (Expr.repetition span low high greedy e).Meaningless := by
  intro f result meant
  obtain ⟨inner, meant_inner, -⟩ := bind_eq_ok.1 meant
  exact hopeless f inner meant_inner

theorem meaningless_group (hopeless : e.Meaningless) (span : Span) (kind : GroupKind) :
    (Expr.group span kind e).Meaningless := by
  intro f result meant
  cases kind with
  | capture index name =>
      obtain ⟨inner, meant_inner, -⟩ := bind_eq_ok.1 meant
      exact hopeless f inner meant_inner
  | plain changes =>
      obtain ⟨inner, meant_inner, -⟩ := bind_eq_ok.1 meant
      exact hopeless _ inner meant_inner

theorem meaningless_forms (hopeless : e.Meaningless) {es : List Expr} (member : e ∈ es) (f : Flags)
    (result : List Form × Flags) : Expr.forms f es ≠ .ok result := by
  induction es generalizing f result with
  | nil => cases member
  | cons first rest ih =>
      intro meant
      obtain ⟨inner, meant_first, meant⟩ := bind_eq_ok.1 meant
      obtain ⟨others, meant_rest, -⟩ := bind_eq_ok.1 meant
      rcases List.mem_cons.1 member with rfl | later
      · exact hopeless f inner meant_first
      · exact ih later _ _ meant_rest

theorem meaningless_concat (hopeless : e.Meaningless) {parts : List Expr} (member : e ∈ parts)
    (span : Span) : (Expr.concat span parts).Meaningless := by
  intro f result meant
  obtain ⟨forms, meant_parts, -⟩ := bind_eq_ok.1 meant
  exact meaningless_forms hopeless member f forms meant_parts

theorem meaningless_alternation (hopeless : e.Meaningless) {branches : List Expr}
    (member : e ∈ branches) (span : Span) : (Expr.alternation span branches).Meaningless := by
  intro f result meant
  obtain ⟨forms, meant_branches, -⟩ := bind_eq_ok.1 meant
  exact meaningless_forms hopeless member f forms meant_branches

theorem meaningless_close (hopeless : e.Meaningless) {s : Sequence} (member : e ∈ s.parts)
    (stop : Position) : (s.close stop).Meaningless := by
  unfold Sequence.close
  split <;> rename_i parts
  · rw [parts] at member
    cases member
  · rw [parts, List.mem_singleton] at member
    exact member ▸ hopeless
  · exact meaningless_concat hopeless (List.mem_reverse.2 member) _

theorem meaningless_closeLevel (hopeless : e.Meaningless) {last : Sequence}
    (member : e ∈ last.parts) (branches : Option Branches) (stop : Position) :
    (closeLevel branches last stop).Meaningless := by
  cases branches with
  | none => exact meaningless_close hopeless member stop
  | some b =>
      refine meaningless_alternation (meaningless_close hopeless member stop) ?_ _
      exact List.mem_reverse.2 List.mem_cons_self

theorem meaningless_branch (hopeless : e.Meaningless) {b : Branches} (member : e ∈ b.done)
    (last : Sequence) (stop : Position) : (closeLevel (some b) last stop).Meaningless :=
  meaningless_alternation hopeless (List.mem_reverse.2 (List.mem_cons_of_mem _ member)) _

end ScriptTypes.Pattern
