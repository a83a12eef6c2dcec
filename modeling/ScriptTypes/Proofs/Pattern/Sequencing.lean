import ScriptTypes.Proofs.Pattern.Following
import ScriptTypes.Proofs.Pattern.Shape

namespace ScriptTypes.Pattern

theorem Way.takeText_append (text more : List Char) (w : Way) :
    w.takeText? (text ++ more) = (w.takeText? text).bind (·.takeText? more) := by
  induction text generalizing w with
  | nil => rfl
  | cons c text ih =>
      rw [List.cons_append, takeText?, takeText?, Option.bind_assoc]
      exact congrArg ((w.take? (· = c)).bind ·) (funext ih)

namespace Form

def runAll (base : Nat) : List Form → List Way → List Way
  | [], ws => ws
  | f :: rest, ws => runAll (base + f.choiceCount) rest (f.run base ws)

def choicesOf : List Form → Nat
  | [] => 0
  | f :: rest => f.choiceCount + choicesOf rest

@[simp] theorem choicesOf_cons (f : Form) (rest : List Form) :
    choicesOf (f :: rest) = f.choiceCount + choicesOf rest := rfl

theorem runAll_append (front back : List Form) (base : Nat) (ws : List Way) :
    runAll base (front ++ back) ws =
      runAll (base + choicesOf front) back (runAll base front ws) := by
  induction front generalizing base ws with
  | nil => rfl
  | cons f front ih =>
      rw [List.cons_append, choicesOf_cons, ← Nat.add_assoc]
      exact ih (base + f.choiceCount) (f.run base ws)

theorem choicesOf_parts (f : Form) : choicesOf f.parts = f.choiceCount := by
  induction f with
  | seq first rest ih_first ih_rest =>
      rw [parts, choicesOf_cons, ih_rest]
      rfl
  | _ => exact Nat.add_zero _

theorem runAll_parts (f : Form) (base : Nat) (ws : List Way) :
    runAll base f.parts ws = f.run base ws := by
  induction f generalizing base ws with
  | seq first rest ih_first ih_rest =>
      rw [parts, runAll, ih_rest]
      rfl
  | _ => rfl

theorem runAll_flatMap_parts (forms : List Form) (base : Nat) (ws : List Way) :
    runAll base (forms.flatMap parts) ws = runAll base forms ws := by
  induction forms generalizing base ws with
  | nil => rfl
  | cons f forms ih =>
      rw [List.flatMap_cons, runAll_append, ih, runAll_parts, choicesOf_parts]
      rfl

theorem runAll_joinLiterals (forms : List Form) (base : Nat) (ws : List Way) :
    runAll base (joinLiterals forms) ws = runAll base forms ws := by
  fun_induction joinLiterals forms generalizing base ws with
  | case1 => rfl
  | case2 rest ih => exact ih base ws
  | case3 text rest more tail joined ih =>
      have later := ih base ((literal text).run base ws)
      rw [joined] at later
      have merged : (literal (text ++ more)).run base ws =
          (literal more).run base ((literal text).run base ws) := by
        simp only [run, List.filterMap_filterMap, Way.takeText_append]
      change runAll base tail ((literal (text ++ more)).run base ws) =
        runAll base rest ((literal text).run base ws)
      rw [merged]
      exact later
  | case4 text rest joined ih => exact ih _ _
  | case5 f rest filled plain ih => exact ih _ _

theorem run_seqOf (forms : List Form) (base : Nat) (ws : List Way) :
    (seqOf forms).run base ws = runAll base forms ws := by
  fun_induction seqOf forms generalizing base ws with
  | case1 => rfl
  | case2 f => rfl
  | case3 f rest more ih => exact ih _ _

theorem run_concat (forms : List Form) (base : Nat) (ws : List Way) :
    (concat forms).run base ws = runAll base forms ws := by
  rw [concat, run_seqOf, runAll_joinLiterals, runAll_flatMap_parts]

theorem run_concat_append (front back : List Form) (base : Nat) (ws : List Way) :
    (concat (front ++ back)).run base ws =
      runAll (base + choicesOf front) back ((concat front).run base ws) := by
  rw [run_concat, run_concat, runAll_append]

theorem run_nil (f : Form) (base : Nat) : f.run base [] = [] := by
  refine List.eq_nil_iff_forall_not_mem.2 fun out member => ?_
  obtain ⟨w, absurd, -⟩ := run_follows f base [] out member
  cases absurd

theorem runAll_nil (forms : List Form) (base : Nat) : runAll base forms [] = [] := by
  induction forms generalizing base with
  | nil => rfl
  | cons f forms ih => rw [runAll, run_nil, ih]

theorem run_settled (f : Form) (base : Nat) {ws : List Way} (settled : ∀ w ∈ ws, w.choices = none) :
    ∀ out ∈ f.run base ws, out.choices = none := by
  intro out member
  obtain ⟨w, start, follows⟩ := run_follows f base ws out member
  exact follows.settled (settled w start)

theorem run_one_settled (f : Form) (base : Nat) {w : Way} (settled : w.choices = none) :
    ∀ out ∈ f.run base [w], out.choices = none :=
  run_settled f base fun _ only => List.mem_singleton.1 only ▸ settled

end Form

end ScriptTypes.Pattern
