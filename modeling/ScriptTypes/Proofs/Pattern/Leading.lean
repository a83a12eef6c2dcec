import ScriptTypes.Proofs.Pattern.Settling
import ScriptTypes.Proofs.Pattern.Vouching

/-!
Reading behind a beginning. What stands at the beginning of a pattern only matters to an operator
that follows it at once. All else is read as if the beginning were not there, and what has been read
in the end is valid without it.
-/

namespace ScriptTypes.Pattern

open ScriptTypes.Text

/-- The first outline is the second with some parts at its beginning. Of the branches that have been
closed, all that is kept is that those of the second are valid where those of the first are. -/
inductive Leads (lead : List Expr) : Outline → Outline → Prop
  | first (start : Position) (parts : List Expr) :
      Leads lead ⟨⟨start, parts ++ lead⟩, none, []⟩ ⟨⟨start, parts⟩, none, []⟩
  | later (last : Sequence) {b c : Branches} (earlier : List.Forall₂ Expr.Vouches b.done c.done) :
      Leads lead ⟨last, some b, []⟩ ⟨last, some c, []⟩
  | inner (last : Sequence) (branches : Option Branches) (opening : Span) (kind : GroupKind)
      (spaced : Bool) {o o' : Outline} (outside : Leads lead o o') :
      Leads lead ⟨last, branches, ⟨opening, kind, o.sequence, o.branches, spaced⟩ :: o.frames⟩
        ⟨last, branches, ⟨opening, kind, o'.sequence, o'.branches, spaced⟩ :: o'.frames⟩

variable {lead : List Expr}

theorem Leads.push {o o' : Outline} (leads : Leads lead o o') (e : Expr) :
    Leads lead (o.push e) (o'.push e) := by
  cases leads with
  | first start parts => exact .first start (e :: parts)
  | later last earlier => exact .later _ earlier
  | inner last branches opening kind spaced outside => exact .inner _ _ _ _ _ outside

theorem Leads.closed {o o' : Outline} (leads : Leads lead o o') (closed : o.frames = []) :
    o'.frames = [] := by
  cases leads with
  | first start parts => rfl
  | later last earlier => rfl
  | inner last branches opening kind spaced outside => cases closed

theorem Leads.last {o o' : Outline} (leads : Leads lead o o')
    (firm : o'.sequence.parts = [] → o.sequence.parts = []) :
    o.sequence.parts = [] ∨
      ∃ e parts own, o.sequence.parts = e :: parts ∧ o'.sequence.parts = e :: own ∧
        Leads lead { o with sequence.parts := parts } { o' with sequence.parts := own } := by
  cases leads with
  | first start parts =>
      cases parts with
      | nil => exact .inl (firm rfl)
      | cons e parts => exact .inr ⟨e, _, _, rfl, rfl, .first start parts⟩
  | later last earlier =>
      obtain ⟨start, parts⟩ := last
      cases parts with
      | nil => exact .inl rfl
      | cons e parts => exact .inr ⟨e, _, _, rfl, rfl, .later ⟨start, parts⟩ earlier⟩
  | inner last branches opening kind spaced outside =>
      obtain ⟨start, parts⟩ := last
      cases parts with
      | nil => exact .inl rfl
      | cons e parts => exact .inr ⟨e, _, _, rfl, rfl, .inner ⟨start, parts⟩ _ _ _ _ outside⟩

theorem vouches_lead (keep : ∀ e ∈ lead, e.KeepsFlags) (start stop : Position)
    (parts : List Expr) :
    (Sequence.close ⟨start, parts ++ lead⟩ stop).Vouches (Sequence.close ⟨start, parts⟩ stop) := by
  by_cases none_lead : lead = []
  · subst none_lead
    rw [List.append_nil]
    exact .refl _
  · exact vouches_behind keep none_lead stop stop

namespace Reader

variable {r s : Reader} {o : Outline} {c : Char} {rest : List Char}

structure Led (lead : List Expr) (r : Reader) (o : Outline) : Prop where
  leads : Leads lead r.outline o
  firm : r.mode = .sequence → o.sequence.parts = [] → r.sequence.parts = []

def Follows (lead : List Expr) (x y : Except Fault Reader) : Prop :=
  ∀ r, x = .ok r → ∃ o, y = .ok (r.withOutline o) ∧ Led lead r o

theorem follows_error (fault : Fault) (y : Except Fault Reader) :
    Follows lead (.error fault) y := fun _ absurd => nomatch absurd

theorem follows_fail (cause : Cause) (span : Span) (y : Except Fault Reader) :
    Follows lead (fail cause span) y := fun _ absurd => nomatch absurd

theorem follows_bind {x y : Except Fault Reader} (follows : Follows lead x y)
    {g : Reader → Except Fault Reader}
    (then_follows : ∀ r o, Led lead r o → Follows lead (g r) (g (r.withOutline o))) :
    Follows lead (x >>= g) (y >>= g) := by
  intro next outcome
  obtain ⟨r, first, last⟩ := bind_eq_ok.1 outcome
  obtain ⟨o, same, led⟩ := follows r first
  rw [same]
  exact then_follows r o led next last

theorem follows_ite {p q : Prop} [Decidable p] [Decidable q] {x x' y y' : Except Fault Reader}
    (same : p ↔ q) (met : p → Follows lead x y) (unmet : ¬ p → Follows lead x' y') :
    Follows lead (if p then x else x') (if q then y else y') := by
  by_cases holds : p
  · rw [if_pos holds, if_pos (same.1 holds)]
    exact met holds
  · rw [if_neg holds, if_neg fun other => holds (same.2 other)]
    exact unmet holds

theorem Led.ok (led : Led lead r o) : Follows lead (.ok r) (.ok (r.withOutline o)) := by
  rintro _ ⟨⟩
  exact ⟨o, rfl, led⟩

theorem Led.pass (led : Led lead r o) (c : Char) : Led lead (r.pass c) o := ⟨led.leads, led.firm⟩

section

variable (leads : Leads lead r.outline o)
include leads

theorem leads_become {mode : Mode} (busy : mode ≠ .sequence) (c : Char) :
    Follows lead (.ok (r.become c mode)) (.ok ((r.withOutline o).become c mode)) :=
  (⟨leads, fun ready => absurd ready busy⟩ : Led lead (r.become c mode) o).ok

theorem leads_push (e : Expr) : Led lead (r.push e) (o.push e) where
  leads := leads.push e
  firm := fun _ absurd => nomatch absurd

theorem follows_closeGroup (c : Char) :
    Follows lead (r.closeGroup c) ((r.withOutline o).closeGroup c) := by
  obtain ⟨position, mode, spaced, inComment, sequence, branches, frames, layers, members, captures,
    names⟩ := r
  change Leads lead ⟨sequence, branches, frames⟩ o at leads
  cases leads with
  | first start parts => exact follows_fail _ _ _
  | later last earlier => exact follows_fail _ _ _
  | inner last branches opening kind spaced outside =>
      exact (leads_push (r := ⟨position.after c, .sequence, spaced, inComment, _, _, _, layers,
        members, captures, names⟩) outside _).ok

theorem follows_closeBranch (keep : ∀ e ∈ lead, e.KeepsFlags) (c : Char) :
    Follows lead (.ok (r.closeBranch c)) (.ok ((r.withOutline o).closeBranch c)) := by
  obtain ⟨position, mode, spaced, inComment, sequence, branches, frames, layers, members, captures,
    names⟩ := r
  change Leads lead ⟨sequence, branches, frames⟩ o at leads
  rintro _ ⟨⟩
  cases leads with
  | first start parts =>
      have own := vouches_lead keep start position parts
      exact ⟨_, rfl, .later _ (.cons own .nil), fun _ same => same⟩
  | later last earlier =>
      exact ⟨_, rfl, .later _ (.cons (.refl _) earlier), fun _ same => same⟩
  | inner last branches opening kind spaced outside =>
      exact ⟨_, rfl, .inner _ _ _ _ _ outside, fun _ same => same⟩

end

/-- An operator takes the same part, unless the beginning is all that there is. -/
theorem follows_takeTarget (leads : Leads lead r.outline o)
    (firm : o.sequence.parts = [] → r.sequence.parts = [])
    {g h : Expr × Reader → Except Fault Reader}
    (follows : ∀ target (s : Reader) o', Leads lead s.outline o' →
      Follows lead (g (target, s)) (h (target, s.withOutline o'))) :
    Follows lead (r.takeTarget >>= g) ((r.withOutline o).takeTarget >>= h) := by
  rcases leads.last firm with nothing | ⟨e, parts, own, split, split_own, left⟩
  · have refused : r.takeTarget = .error ⟨.repetitionMissing, r.here, none⟩ := by
      unfold takeTarget
      rw [show r.sequence.parts = [] from nothing]
    rw [refused]
    exact follows_error _ _
  · have taken : r.takeTarget = if e.isRepeatable then
        .ok (e, { r with sequence := { r.sequence with parts } })
        else .error ⟨.repetitionMissing, r.here, none⟩ := by
      unfold takeTarget
      rw [show r.sequence.parts = e :: parts from split]
    have taken_below : (r.withOutline o).takeTarget = if e.isRepeatable then
        .ok (e, { r.withOutline o with sequence := { o.sequence with parts := own } })
        else .error ⟨.repetitionMissing, r.here, none⟩ := by
      unfold takeTarget
      rw [show (r.withOutline o).sequence.parts = e :: own from split_own]
      rfl
    rw [taken, taken_below]
    split
    · exact follows e { r with sequence := { r.sequence with parts } } _ left
    · exact follows_error _ _

theorem SequenceStep.follows {step : Reader → Except Fault Reader} (shape : SequenceStep c step)
    (leads : Leads lead r.outline o) (keep : ∀ e ∈ lead, e.KeepsFlags)
    (firm : c ∈ operators → o.sequence.parts = [] → r.sequence.parts = []) :
    Follows lead (step r) (step (r.withOutline o)) := by
  cases shape with
  | opens => exact leads_become leads (by nofun) c
  | closes => exact follows_closeGroup leads c
  | bar => exact follows_closeBranch leads keep c
  | bracket =>
      exact leads_become (r := { r with layers := [], members := ⟨r.here, []⟩ }) leads (by nofun) c
  | quantifier low high same =>
      refine follows_takeTarget leads (firm (List.mem_append_left ['\x7b'] same)) ?_
      exact fun target s o' leads => leads_become leads (by nofun) c
  | brace same =>
      refine follows_takeTarget leads (firm (by simp [same, operators])) ?_
      exact fun target s o' leads => leads_become leads (by nofun) c
  | escape => exact leads_become leads (by nofun) c
  | item make blind => exact ((leads_push leads _).pass c).ok

end Reader

end ScriptTypes.Pattern
