import ScriptTypes.Proofs.Pattern.Blanks
import ScriptTypes.Proofs.Pattern.Leading
import ScriptTypes.Proofs.Pattern.Mending

namespace ScriptTypes.Pattern

open ScriptTypes.Text

namespace Reader

variable {lead : List Expr} {r s : Reader} {o : Outline} {c : Char} {rest : List Char}
  {x y : Except Fault Reader}

theorem Change.led {o' : Outline} (change : Change c r o s o') (led : Led lead r o) :
    Led lead s o' := by
  cases change with
  | turn s beside mode =>
      refine ⟨beside.outline ▸ led.leads, fun ready nothing => ?_⟩
      have same : s.sequence = r.sequence := congrArg Outline.sequence beside.outline
      rw [same]
      exact led.firm (mode.ready ready) nothing
  | put s beside e made closes => exact leads_push (beside.outline ▸ led.leads) e

theorem Opens.led {o' : Outline} (opens : Opens c r o s o') (leads : Leads lead r.outline o) :
    Led lead s o' := by
  cases opens with
  | plain s beside =>
      rw [← beside.outline] at leads
      exact ⟨.inner _ _ _ _ _ leads, fun _ nothing => nothing⟩
  | capture s outline =>
      rw [← outline] at leads
      exact ⟨.inner _ _ _ _ _ leads, fun _ nothing => nothing⟩

theorem Changes.follows (changes : Changes c r o x y) (led : Led lead r o) : Follows lead x y := by
  cases changes with
  | refuse fault => exact follows_error _ _
  | done change => exact (change.led led).ok

theorem ItemStep.follows (item : ItemStep c r o x y) (led : Led lead r o)
    (keep : ∀ e ∈ lead, e.KeepsFlags) : Follows lead x y := by
  cases item with
  | changes changes => exact changes.follows led
  | sequence ready shape => exact shape.follows led.leads keep fun _ => led.firm ready

theorem stepMode_follows (led : Led lead r o) (keep : ∀ e ∈ lead, e.KeepsFlags) (c : Char)
    (rest : List Char) : Follows lead (r.stepMode c rest) ((r.withOutline o).stepMode c rest) := by
  cases modeStep r o c rest with
  | item item => exact item.follows led keep
  | settled first item => exact item.follows (first.led led) keep
  | opened first item => exact item.follows (first.led led.leads) keep

theorem Led.observe (led : Led lead r o) (c : Char) : Led lead (r.observe c) o := by
  unfold Reader.observe
  split
  · exact ⟨led.leads, fun absurd => nomatch absurd⟩
  · exact led

theorem observe_withOutline (r : Reader) (o : Outline) (c : Char) :
    (r.withOutline o).observe c = (r.observe c).withOutline o := by
  unfold Reader.observe
  rw [withOutline_mode]
  split <;> rfl

theorem step_follows (led : Led lead r o) (keep : ∀ e ∈ lead, e.KeepsFlags) (c : Char)
    (rest : List Char) : Follows lead (r.step c rest) ((r.withOutline o).step c rest) := by
  have observed := led.observe c
  unfold step
  rw [observe_withOutline]
  refine follows_ite .rfl (fun _ => ?_) fun _ => follows_ite .rfl (fun _ => ?_) fun _ =>
    follows_ite .rfl (fun _ => ?_) fun _ => stepMode_follows led keep c rest
  · let s : Reader := { (r.observe c).pass c with inComment := c ≠ '\n' }
    exact (⟨observed.leads, observed.firm⟩ : Led lead s o).ok
  · exact (observed.pass c).ok
  · let s : Reader := { (r.observe c).pass c with inComment := true }
    exact (⟨observed.leads, observed.firm⟩ : Led lead s o).ok

theorem run_follows (led : Led lead r o) (keep : ∀ e ∈ lead, e.KeepsFlags) (text : List Char) :
    Follows lead (r.run text) ((r.withOutline o).run text) := by
  induction text generalizing r o with
  | nil => exact led.ok
  | cons c rest ih => exact follows_bind (step_follows led keep c rest) fun _ _ led => ih led

theorem settle_follows (led : Led lead r o) :
    Follows lead r.settle (r.withOutline o).settle := (changes_settle r o).follows led

theorem finish_follows (led : Led lead r o) (keep : ∀ e ∈ lead, e.KeepsFlags) {e : Expr}
    (finished : r.finish = .ok e) : ∃ own, (r.withOutline o).finish = .ok own ∧ e.Vouches own := by
  obtain ⟨s, settled, ready, closed, rfl⟩ := finish_eq_ok.1 finished
  obtain ⟨o', settled_below, leads, -⟩ := settle_follows led s settled
  obtain ⟨position, mode, spaced, inComment, sequence, branches, frames, layers, members, captures,
    names⟩ := s
  cases closed
  change Leads lead ⟨sequence, branches, []⟩ o' at leads
  cases leads with
  | first start parts =>
      exact ⟨_, finish_eq_ok.2 ⟨_, settled_below, ready, rfl, rfl⟩, vouches_lead keep _ _ _⟩
  | later last earlier =>
      exact ⟨_, finish_eq_ok.2 ⟨_, settled_below, ready, rfl, rfl⟩,
        vouches_closeLevel (.some earlier) (.refl _)⟩

theorem first_follows (leads : Leads lead r.outline o) (keep : ∀ e ∈ lead, e.KeepsFlags)
    (ready : r.mode = .sequence) (awake : r.inComment = false) (unspaced : r.spaced = false)
    (plain : c ∉ operators) (rest : List Char) :
    Follows lead (r.step c rest) ((r.withOutline o).step c rest) := by
  have stepped (s : Reader) (ready : s.mode = .sequence) (awake : s.inComment = false)
      (unspaced : s.spaced = false) : s.step c rest = s.stepSequence c := by
    simp [step, stepMode, ready, awake, unspaced]
  rw [stepped r ready awake unspaced, stepped (r.withOutline o) ready awake unspaced]
  exact (sequenceStep c).follows leads keep fun operator => absurd operator plain

def behind (r : Reader) (lead : List Char) : Reader :=
  { r with
    position := lead.foldl Position.after r.position
    sequence.parts := (letters r.position lead).reverse ++ r.sequence.parts }

theorem run_letters {text : List Char} (plain : ∀ c ∈ text, c ∉ specials)
    (ready : r.mode = .sequence) (awake : r.inComment = false) (unspaced : r.spaced = false)
    (rest : List Char) : r.run (text ++ rest) = (r.behind text).run rest := by
  induction text generalizing r with
  | nil => rfl
  | cons c text ih =>
      obtain ⟨first, later⟩ := List.forall_mem_cons.1 plain
      have stepped : r.step c (text ++ rest) =
          .ok ((r.push (.atom (.literal ⟨.char r.position c, c, false⟩))).pass c) := by
        rw [← stepSequence_plain first]
        simp [step, stepMode, ready, awake, unspaced]
      rw [List.cons_append, run, stepped]
      refine (ih (r := (r.push _).pass c) later rfl awake unspaced).trans (congrArg (run · rest) ?_)
      simp [behind, letters, push, pass, Sequence.push, ready]

theorem Alike.escape {s : Reader} {start : Position} (alike : Alike r s)
    (mode : r.mode = .escape start .sequence) : ∃ moved, s.mode = .escape moved .sequence := by
  have same := alike.mode
  rw [mode] at same
  cases other : s.mode with
  | escape moved place =>
      rw [other] at same
      cases place with
      | sequence => exact ⟨moved, rfl⟩
      | member => cases same
      | rangeEnd first => cases same
  | _ =>
      rw [other] at same
      cases same

theorem Alike.names {s : Reader} (alike : Alike r s) : r.names.map (·.1) = s.names.map (·.1) := by
  have same : r.unplaced.names = s.unplaced.names := congrArg Reader.names alike
  simpa [unplaced, Function.comp_def] using congrArg (List.map (·.1)) same

end Reader

theorem keepsFlags_letters (p : Position) (text : List Char) :
    ∀ e ∈ (letters p text).reverse, e.KeepsFlags := by
  induction text generalizing p with
  | nil => exact fun _ absurd => nomatch absurd
  | cons c rest ih =>
      intro e member
      rw [letters, List.reverse_cons, List.mem_append, List.mem_singleton] at member
      rcases member with later | rfl
      · exact ih _ e later
      · exact keepsFlags_atom _

theorem namesOf_finish {text : List Char} {r : Reader} {e : Expr}
    (read : Reader.initial.run text = .ok r) (finished : r.finish = .ok e) :
    (namesOf e.groups).reverse = r.names.map (·.1) := by
  rw [Reader.groups_finish finished]
  exact (Reader.run_counted text read Reader.counted_initial).names.symm

/-- White space at the beginning of a text is read apart from what follows, unless that is an
operator. -/
theorem run_behind {lead rest : List Char} {c : Char} {r : Reader}
    (blank : ∀ d ∈ lead, isBlank d = true) (plain : c ∉ operators)
    (read : Reader.initial.run (lead ++ c :: rest) = .ok r) :
    ∃ o s, Reader.initial.run (c :: rest) = .ok s ∧ Reader.Alike (r.withOutline o) s ∧
      Reader.Led (letters .first lead).reverse r o := by
  rw [Reader.run_letters (fun d member => plain_blank (blank d member)) rfl rfl rfl] at read
  have keep := keepsFlags_letters .first lead
  have outline : (Reader.initial.behind lead).outline =
      ⟨⟨.first, [] ++ (letters .first lead).reverse⟩, none, []⟩ := by
    rw [List.nil_append, ← List.append_nil (letters .first lead).reverse]
    rfl
  have leads : Leads (letters .first lead).reverse (Reader.initial.behind lead).outline
      Reader.initial.outline := by
    rw [outline]
    exact .first .first []
  have follows := Reader.follows_bind (Reader.first_follows leads keep rfl rfl rfl plain rest)
    fun _ _ led => Reader.run_follows led keep rest
  obtain ⟨o, read_bare, led⟩ := follows r read
  -- the reader without the beginning is the initial one at another place
  have alike : Reader.Alike (Reader.initial.moveTo (lead.foldl Position.after .first))
      Reader.initial := (Reader.initial.alike_moveTo _).symm
  obtain ⟨s, read_own, alike_end⟩ := Reader.exists_alike (alike.run (c :: rest)) read_bare
  exact ⟨o, s, read_own, alike_end, led⟩

theorem ofText_behind {lead rest : List Char} {c : Char} {e : Expr}
    (blank : ∀ d ∈ lead, isBlank d = true) (plain : c ∉ operators)
    (spelled : Expr.ofText? (lead ++ c :: rest) = .ok e) :
    ∃ own, Expr.ofText? (c :: rest) = .ok own ∧ e.Vouches own ∧
      namesOf own.groups = namesOf e.groups := by
  obtain ⟨r, read, finished, shallow⟩ := ofText_eq_ok.1 spelled
  obtain ⟨o, s, read_own, alike, led⟩ := run_behind blank plain read
  obtain ⟨moved, finished_bare, vouches⟩ :=
    Reader.finish_follows led (keepsFlags_letters .first lead) finished
  obtain ⟨own, finished_own, same⟩ := alike.finish finished_bare
  have vouches_own := vouches.trans (vouches_alike same.symm)
  refine ⟨own, ofText_eq_ok.2 ⟨s, read_own, finished_own, vouches_own.shallow 0 shallow⟩,
    vouches_own, List.reverse_injective ?_⟩
  rw [namesOf_finish read_own finished_own, namesOf_finish read finished, ← alike.names]
  rfl

/-- A pattern cannot begin with an operator. -/
theorem ofText_operator {c : Char} (operator : c ∈ operators) (rest : List Char) :
    ∃ fault, Expr.ofText? (c :: rest) = .error fault := by
  simp only [operators, List.mem_cons, List.not_mem_nil, or_false] at operator
  rcases operator with rfl | rfl | rfl | rfl
  · exact ⟨_, rfl⟩
  · exact ⟨_, rfl⟩
  · exact ⟨_, rfl⟩
  · exact ⟨_, rfl⟩

end ScriptTypes.Pattern
