import ScriptTypes.Proofs.Pattern.Appending
import ScriptTypes.Proofs.Pattern.Commented
import ScriptTypes.Proofs.Pattern.Escapes
import ScriptTypes.Proofs.Pattern.Vouching
import ScriptTypes.Proofs.Text.Trim

namespace ScriptTypes.Pattern

open ScriptTypes.Text

variable {c : Char} (blank : isBlank c = true)
include blank

theorem plain_blank : c ∉ specials := by
  have all : blanks.all (· ∉ specials) = true := by decide +kernel
  exact of_decide_eq_true (List.all_eq_true.1 all c (mem_blanks blank))

theorem foreign_blank : Foreign c := by
  have all : blanks.all (fun c => c ≠ '#' ∧ c.isDigit = false ∧ hexValue? c = none ∧
      isWordEdgeLetter c = false ∧ flag? c = none ∧
      c ∉ ['?', '\x7b', '\x7d', ',', '<', '>', '=', '!', 'P', ':', ')', '-']) = true := by
    decide +kernel
  obtain ⟨noComment, noDigit, noHex, noEdge, noFlag, noMark⟩ :=
    of_decide_eq_true (List.all_eq_true.1 all c (mem_blanks blank))
  exact ⟨noComment, noDigit, noHex, noEdge, noFlag, noMark⟩

theorem not_bracket_blank : c ≠ ']' ∧ c ≠ '\\' := by
  have all : blanks.all (fun c => c ≠ ']' ∧ c ≠ '\\') = true := by decide +kernel
  exact of_decide_eq_true (List.all_eq_true.1 all c (mem_blanks blank))

theorem meaningless_blank (span : Span) (negated : Bool) :
    (Expr.atom (.property span (.letter c) negated)).Meaningless := by
  have all : blanks.all (fun c => c ∈ Unicode.nameless ∨ Unicode.looseName c.toString = "") =
      true := by decide +kernel
  rcases of_decide_eq_true (List.all_eq_true.1 all c (mem_blanks blank)) with strange | empty
  · exact meaningless_property (Unicode.set_letter_nameless strange) span negated
  · exact meaningless_property (Unicode.set_letter_of_loose empty) span negated

omit blank

theorem keepsFlags_atom (a : Atom) : (Expr.atom a).KeepsFlags := by
  intro f form after meant
  obtain ⟨own, -, meant⟩ := bind_eq_ok.1 meant
  cases meant
  rfl

theorem Expr.Vouches.meaningful {e other : Expr} (vouches : e.Vouches other)
    (meant : ¬ e.Meaningless) : ¬ other.Meaningless := by
  intro hopeless
  refine meant fun f result formed => ?_
  obtain ⟨own, formed⟩ := vouches.meant f result.1 result.2 formed
  exact hopeless f _ formed

namespace Reader

variable {r s next : Reader} {rest : List Char} {e : Expr}

theorem deliver_inComment (r : Reader) (commented : Bool) (place : Place) (item : Atom) :
    ({ r with inComment := commented }.deliver place item >>= finishItem) =
      (r.deliver place item >>= finishItem) := by
  cases place with
  | sequence => rfl
  | member => rfl
  | rangeEnd first =>
      simp only [deliver]
      cases rangeOf first item <;> rfl

theorem finish_inComment (r : Reader) (commented : Bool) :
    { r with inComment := commented }.finish = r.finish := by
  have delivered := deliver_inComment r commented
  obtain ⟨position, mode, spaced, inComment, sequence, branches, frames, layers, members, captures,
    names⟩ := r
  cases mode with
  | counted start low high target =>
      simp only [finish, pushCounted]
      split <;> rfl
  | wordEdge start place => exact delivered place _
  | hexEnd start digits width read place =>
      simp only [finish, closeHex]
      split
      · exact delivered place _
      · rfl
  | hexBraceEnd start brace digits stop read place =>
      simp only [finish, closeHexBrace]
      split
      · rfl
      split
      · exact delivered place _
      · rfl
  | propertyLetter start negated letter place => exact delivered place _
  | _ => rfl

theorem finish_passed (commented : Bool)
    (finished : { r.pass c with inComment := commented }.finish = .ok e) :
    ∃ own, r.finish = .ok own ∧ e.Vouches own := by
  rw [finish_inComment] at finished
  obtain ⟨own, own_finished, same⟩ := (r.alike_moveTo (r.position.after c)).symm.finish finished
  exact ⟨own, own_finished, vouches_alike same.symm⟩

theorem frames_deliver {place : Place} {item : Atom} (delivered : r.deliver place item = .ok next) :
    next.frames = r.frames := by
  cases place with
  | sequence =>
      cases delivered
      rfl
  | member =>
      cases delivered
      rfl
  | rangeEnd first =>
      obtain ⟨range, -, delivered⟩ := bind_eq_ok.1 delivered
      cases delivered
      rfl

theorem frames_escape {start : Position} {place : Place}
    (stepped : r.stepEscape start place c = .ok next) : next.frames = r.frames := by
  have passing {item : Atom} (stepped : (do return (← r.deliver place item).pass c) = .ok next) :
      next.frames = r.frames := by
    obtain ⟨s, delivered, stepped⟩ := bind_eq_ok.1 stepped
    cases stepped
    have same : s.frames = r.frames := frames_deliver delivered
    exact same
  -- an escape becomes an item or the beginning of a longer escape; no frame is opened by either
  unfold stepEscape at stepped
  dsimp only at stepped
  split at stepped
  · cases stepped
  split at stepped
  · cases stepped
    rfl
  split at stepped
  · cases stepped
    rfl
  split at stepped
  · exact passing stepped
  split at stepped
  · exact passing stepped
  split at stepped
  · exact passing stepped
  split at stepped
  · exact passing stepped
  split at stepped
  · cases stepped
    rfl
  · cases stepped

theorem frames_of_finish (finished : r.finish = .ok e) : r.frames = [] := by
  obtain ⟨s, settled, ready, closed, -⟩ := finish_eq_ok.1 finished
  rcases settle_eq settled ready with rfl | ⟨item, rfl⟩
  · exact closed
  · exact closed

theorem stepItem_blank (blank : isBlank c = true) (ready : s.mode = .sequence)
    (rest : List Char) :
    s.stepItem c rest = .ok (s.pass c) ∨
      s.stepItem c rest =
        .ok ((s.push (.atom (.literal ⟨.char s.position c, c, false⟩))).pass c) := by
  have no_comment : c ≠ '#' := (foreign_blank blank).noComment
  rw [← stepSequence_plain (plain_blank blank)]
  cases spaced : s.spaced with
  | true => exact .inl (by simp [stepItem, spaced, blank])
  | false => exact .inr (by simp [stepItem, spaced, ready])

theorem finish_of_item (blank : isBlank c = true) (settled : r.settle = .ok s)
    (ready : s.mode = .sequence) (stepped : s.stepItem c rest = .ok next)
    (finished : next.finish = .ok e) : ∃ own, r.finish = .ok own ∧ e.Vouches own := by
  obtain ⟨t, settled_next, -, closed, rfl⟩ := finish_eq_ok.1 finished
  rcases stepItem_blank blank ready rest with passed | pushed
  · rw [passed] at stepped
    cases stepped
    rw [settle_sequence (s := s.pass c) ready] at settled_next
    cases settled_next
    refine ⟨_, finish_eq_ok.2 ⟨s, settled, ready, closed, rfl⟩, vouches_alike ?_⟩
    exact (s.alike_moveTo (s.position.after c)).symm.closeLevel _ _
  · rw [pushed] at stepped
    cases stepped
    cases settled_next
    refine ⟨_, finish_eq_ok.2 ⟨s, settled, ready, closed, rfl⟩, vouches_last _ ?_⟩
    exact vouches_push (keepsFlags_atom _) _ _

theorem not_finish_of_opening {opening : Span} (blank : isBlank c = true)
    (stepped : (r.openCapture opening none).stepItem c rest = .ok next) (e : Expr) :
    next.finish ≠ .ok e := by
  intro finished
  have closed := frames_of_finish finished
  have ready : (r.openCapture opening none).mode = .sequence := rfl
  rcases stepItem_blank blank ready rest with passed | pushed
  · rw [passed] at stepped
    cases stepped
    cases closed
  · rw [pushed] at stepped
    cases stepped
    cases closed

theorem finish_of_stepMode (blank : isBlank c = true) (outside : r.mode.inClass = false)
    (unspaced : r.mode = .sequence → (r.spaced && isBlank c) = false)
    (stepped : r.stepMode c rest = .ok next) (finished : next.finish = .ok e)
    (meant : ¬ e.Meaningless) :
    (r.frames = [] ∧ ∃ start, r.mode = .escape start .sequence) ∨
      ∃ own, r.finish = .ok own ∧ e.Vouches own := by
  have foreign := foreign_blank blank
  have no_backslash : c ≠ '\\' := (not_bracket_blank blank).2
  cases place_of_foreign foreign outside stepped with
  | item settled ready =>
      rename_i s
      have visible : r.mode = .sequence → (s.spaced && isBlank c) = false := by
        intro own_ready
        rw [settle_sequence own_ready] at settled
        cases settled
        exact unspaced own_ready
      rw [stepMode_settled settled ready (foreign.ne (by decide)) (foreign.ne (by decide))
        foreign.noComment visible] at stepped
      exact .inr (finish_of_item blank settled ready stepped finished)
  | opening mode =>
      simp only [stepMode, mode] at stepped
      rw [if_neg (foreign.ne (by decide))] at stepped
      exact absurd finished (not_finish_of_opening blank stepped e)
  | escape mode =>
      simp only [stepMode, mode] at stepped
      refine .inl ⟨?_, _, mode⟩
      rw [← frames_escape stepped]
      exact frames_of_finish finished
  -- a blank can be a name of a property to the reader, but no set of characters is called so
  | property mode =>
      simp only [stepMode, mode, stepPropertyOpen] at stepped
      rw [if_neg (foreign.ne (by decide)), if_neg no_backslash] at stepped
      cases stepped
      obtain ⟨t, settled, -, -, rfl⟩ := finish_eq_ok.1 finished
      cases settled
      have hopeless := meaningless_blank blank
      exact absurd (meaningless_closeLevel (hopeless _ _) List.mem_cons_self _ _) meant
  | propertyName mode =>
      simp only [stepMode, mode, stepPropertyName] at stepped
      rw [if_neg (foreign.ne (by decide))] at stepped
      cases stepped
      cases finished
  | name part mode =>
      rw [finish, mode] at finished
      cases finished
  | count blank mode =>
      rw [finish, mode] at finished
      cases finished

/-- White space is not needed at the end of a pattern, unless an escape takes it. -/
theorem finish_of_blank (blank : isBlank c = true) (stepped : r.step c rest = .ok next)
    (finished : next.finish = .ok e) (meant : ¬ e.Meaningless) :
    (r.frames = [] ∧ ∃ start, r.mode = .escape start .sequence) ∨
      ∃ own, r.finish = .ok own ∧ e.Vouches own := by
  cases inside : r.mode.inClass with
  | true =>
      have still := step_inClass (not_bracket_blank blank).1 inside stepped
      exact absurd finished (finish_inClass still e)
  | false =>
      cases step_taken stepped with
      | passed commented skips begun same =>
          rw [same, observe_outside inside] at finished
          exact .inr (finish_passed commented finished)
      | read awake visible stepped =>
          refine finish_of_stepMode blank inside (fun ready => ?_) stepped finished meant
          simpa [ready, Mode.passesBlanks] using visible

/-- So it is with all the white space at the end of a pattern, of which only the first character can
be escaped. -/
theorem finish_of_blanks {text front : List Char} (blank : ∀ c ∈ text, isBlank c = true)
    (paired : Paired front r) (read : r.run text = .ok next) (finished : next.finish = .ok e)
    (meant : ¬ e.Meaningless) :
    (text ≠ [] ∧ r.frames = [] ∧ ∃ start, r.mode = .escape start .sequence) ∨
      ∃ own, r.finish = .ok own ∧ e.Vouches own := by
  induction text generalizing r front with
  | nil =>
      cases read
      exact .inr ⟨e, finished, .refl e⟩
  | cons c rest ih =>
      obtain ⟨first, later⟩ := List.forall_mem_cons.1 blank
      obtain ⟨middle, stepped, read⟩ := bind_eq_ok.1 read
      have none_open := not_escape_of_step (not_bracket_blank first).2 paired stepped
      rcases ih later (step_paired paired stepped) read with escape | ⟨own, ends, vouches⟩
      · obtain ⟨-, -, start, mode⟩ := escape
        exact absurd mode (none_open start)
      have own_meant := vouches.meaningful meant
      rcases finish_of_blank first stepped ends own_meant with escape | ⟨other, ends, more⟩
      · exact .inl ⟨List.cons_ne_nil c rest, escape⟩
      · exact .inr ⟨other, ends, vouches.trans more⟩

end Reader

theorem completesNothing_blanks {text : List Char} (blank : ∀ c ∈ text, isBlank c = true) :
    CompletesNothing text := by
  refine ⟨fun colon => ?_, fun bracket => ?_⟩
  · exact absurd (blank _ colon) (by decide)
  · exact absurd (blank _ (List.mem_of_head? bracket)) (by decide)

theorem ofText_of_blanks {text tail : List Char} {e : Expr} {result : Form × Flags}
    (blank : ∀ c ∈ tail, isBlank c = true) (spelled : Expr.ofText? (text ++ tail) = .ok e)
    (meant : e.form {} = .ok result) :
    ∃ r, Reader.initial.run text = .ok r ∧
      ((tail ≠ [] ∧ r.frames = [] ∧ ∃ start, r.mode = .escape start .sequence) ∨
        ∃ own, Expr.ofText? text = .ok own ∧ e.Vouches own ∧ own.groups <+: e.groups) := by
  obtain ⟨next, read, finished, shallow⟩ := ofText_eq_ok.1 spelled
  rw [Reader.run_append (completesNothing_blanks blank)] at read
  obtain ⟨r, read_text, read⟩ := bind_eq_ok.1 read
  have meaningful : ¬ e.Meaningless := fun hopeless => hopeless {} _ meant
  have paired := Reader.run_paired Reader.paired_initial read_text
  have ending := Reader.finish_of_blanks blank paired read finished meaningful
  refine ⟨r, read_text, ending.imp_right ?_⟩
  rintro ⟨own, ends, vouches⟩
  refine ⟨own, ofText_eq_ok.2 ⟨r, read_text, ends, vouches.shallow 0 shallow⟩, vouches, ?_⟩
  rw [Reader.groups_finish ends, Reader.groups_finish finished]
  exact Reader.groups_run read

end ScriptTypes.Pattern
