import ScriptTypes.Proofs.Pattern.Classes
import ScriptTypes.Proofs.Pattern.Joining
import ScriptTypes.Proofs.Pattern.Moving
import ScriptTypes.Proofs.Pattern.Numbering

/-!
A text behind a comment. A comment takes it up to the end of the line, and it only moves places in
the text that the meaning of a pattern does not depend on.
-/

namespace ScriptTypes.Pattern

open ScriptTypes.Text

variable {e : Expr}

namespace Reader

variable {r : Reader}

def moveTo (r : Reader) (p : Position) : Reader := { r with position := p }

theorem alike_moveTo (r : Reader) (p : Position) : Alike r (r.moveTo p) := rfl

theorem outside_of_finish (finished : r.finish = .ok e) : r.mode.inClass = false := by
  cases inside : r.mode.inClass with
  | false => rfl
  | true => exact absurd finished (finish_inClass inside e)

theorem run_comment {text : List Char} (commented : r.inComment = true)
    (outside : r.mode.inClass = false) (one_line : '\n' ∉ text) :
    r.run text = .ok (r.moveTo (text.foldl Position.after r.position)) := by
  induction text generalizing r with
  | nil => rfl
  | cons c rest ih =>
      have stays : c ≠ '\n' := by
        intro same
        subst same
        exact one_line List.mem_cons_self
      have stepped : r.step c rest = .ok (r.moveTo (r.position.after c)) := by
        rw [step, if_pos commented, observe_outside outside]
        simp [pass, moveTo, stays, commented]
      rw [run, stepped]
      exact ih commented outside fun member => one_line (List.mem_cons_of_mem c member)

end Reader

/-- What a text behind a comment adds to a pattern: nothing that has a meaning. -/
theorem ofText_commented {text more : List Char} {r s : Reader} (reads : Reads text r s e)
    (commented : r.inComment = true) (closed : CompletesNothing more) (one_line : '\n' ∉ more) :
    ∃ other, e.Means other ∧ Expr.ofText? (text ++ more) = other.checked := by
  let p := more.foldl Position.after r.position
  have finished : r.finish = .ok e := Reader.finish_eq_ok.2
    ⟨s, reads.settled, reads.ready, reads.closed, reads.spelled⟩
  have outside := Reader.outside_of_finish finished
  have read_more : Reader.initial.run (text ++ more) = .ok (r.moveTo p) := by
    rw [Reader.run_append closed, reads.read]
    exact Reader.run_comment commented outside one_line
  obtain ⟨other, finished_more, same⟩ := (r.alike_moveTo p).finish finished
  exact ⟨other, means_alike same.symm, ofText_eq_checked read_more finished_more⟩

end ScriptTypes.Pattern
