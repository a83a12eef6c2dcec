import ScriptTypes.Proofs.Pattern.Searching
import ScriptTypes.Proofs.Pattern.Words
import ScriptTypes.Proofs.Text.Occurrence

namespace ScriptTypes.Pattern

open ScriptTypes.Text
open String (utf8Len)

def Cursor.past (c : Cursor) (text : List Char) : Cursor :=
  ⟨c.offset + utf8Len text, text.getLast?.or c.before, c.rest.drop text.length⟩

theorem Cursor.past_cons (offset : Nat) (before : Option Char) (x : Char) (rest text : List Char) :
    Cursor.past ⟨offset + x.utf8Size, some x, rest⟩ text =
      Cursor.past ⟨offset, before, x :: rest⟩ (x :: text) := by
  simp [Cursor.past, List.getLast?_cons, Nat.add_assoc, Nat.add_comm x.utf8Size]

theorem Way.takeText_of_prefix {w : Way} (settled : w.choices = none) {text : List Char}
    (begins : text <+: w.cursor.rest) :
    w.takeText? text = some { w with cursor := w.cursor.past text } := by
  induction text generalizing w with
  | nil => rfl
  | cons x text ih =>
      obtain ⟨⟨offset, before, rest⟩, groups, choices⟩ := w
      obtain ⟨back, rfl⟩ := begins
      cases settled
      have taken := ih (w := ⟨⟨offset + x.utf8Size, some x, text ++ back⟩, groups, none⟩) rfl
        (List.prefix_append text back)
      simp only [Way.takeText?, Way.take?, List.cons_append, decide_true, if_true, Option.bind_some,
        Option.map_none, taken, Cursor.past_cons offset before]

theorem Way.takeText_of_missed {w : Way} {text : List Char} (missed : ¬ text <+: w.cursor.rest) :
    w.takeText? text = none := by
  induction text generalizing w with
  | nil => exact absurd List.nil_prefix missed
  | cons x text ih =>
      rw [Way.takeText?, Way.take?]
      cases begun : w.cursor.rest with
      | nil => rfl
      | cons y rest =>
          by_cases same : y = x
          · subst same
            rw [begun, List.prefix_cons_inj] at missed
            simpa using ih (w := ⟨⟨_, _, rest⟩, _, _⟩) missed
          · simp [same]

theorem Way.settled_takeText {w out : Way} {text : List Char} (settled : w.choices = none)
    (taken : w.takeText? text = some out) : out.choices = none := by
  have follows : Follows [] w out := follows_takeText taken
  exact follows.settled settled

namespace Form

variable {f : Form} {w : Way} {word text front back : List Char}

def Takes (f : Form) (word : List Char) : Prop :=
  ∀ c : Cursor, f.best? { cursor := c } = Way.takeText? { cursor := c } word

theorem run_word (text : List Char) (base : Nat) (ws : List Way) :
    (Form.word text).run base ws = ws.filterMap (·.takeText? text) := by
  cases text with
  | nil => exact List.filterMap_some.symm
  | cons x text => rfl

theorem best_word (text : List Char) (w : Way) : (Form.word text).best? w = w.takeText? text := by
  rw [best?, run_word, List.head?_filterMap]
  exact List.findSome?_singleton

theorem run_letters (text : List Char) (base : Nat) (ws : List Way) :
    runAll base (text.map fun c => .literal [c]) ws = ws.filterMap (·.takeText? text) := by
  rw [← run_concat, concat_letters, run_word]

theorem choicesOf_letters (text : List Char) :
    choicesOf (text.map fun c => .literal [c]) = 0 := by
  induction text with
  | nil => rfl
  | cons x text ih => rw [List.map_cons, choicesOf_cons, ih]; rfl

theorem best_led (settled : w.choices = none) (text : List Char) (f : Form) :
    (led text f).best? w = (w.takeText? text).bind f.best? := by
  rw [best?, led, run_concat, runAll_append, run_letters, choicesOf_letters]
  cases taken : w.takeText? text with
  | none => simp [taken, runAll, run_nil]
  | some out =>
      have calm := Way.settled_takeText settled taken
      simp [taken, runAll, best_eq_run f _ calm]

theorem takes_marked (word : List Char) (index : Nat) (name : String) :
    (led word (mark index name false)).Takes word := by
  intro c
  rw [best_led rfl]
  cases taken : Way.takeText? { cursor := c } word with
  | none => rfl
  | some out =>
      have calm := Way.settled_takeText rfl taken
      have only : ∀ v ∈ [out], v.choices = none := fun v member => List.mem_singleton.1 member ▸ calm
      exact head_run_mark 0 only

theorem Takes.matchAt (takes : f.Takes word) {c : Cursor} (begins : word <+: c.rest) :
    f.matchAt? c = some (⟨⟨c.offset, c.offset + utf8Len word⟩, []⟩, c.past word) := by
  rw [matchAt_eq, takes, Way.takeText_of_prefix rfl begins]
  rfl

theorem Takes.matchAt_missed (takes : f.Takes word) {c : Cursor} (missed : ¬ word <+: c.rest) :
    f.matchAt? c = none := by
  rw [matchAt_eq, takes, Way.takeText_of_missed missed]
  rfl

theorem findFrom_of_matchAt {offset : Nat} {before : Option Char} {found : Match × Cursor}
    (here : f.matchAt? ⟨offset, before, text⟩ = some found) :
    f.findFrom? offset before text = some found := by
  cases text with
  | nil => exact here
  | cons x rest => rw [findFrom?, here]

theorem Takes.findFrom (takes : f.Takes word) (first : FirstAt word text front back) (offset : Nat)
    (before : Option Char) :
    f.findFrom? offset before text =
      some (⟨⟨offset + utf8Len front, offset + utf8Len front + utf8Len word⟩, []⟩,
        Cursor.past ⟨offset, before, text⟩ (front ++ word)) := by
  induction front generalizing offset before text with
  | nil =>
      rw [first.split]
      exact findFrom_of_matchAt (takes.matchAt (List.prefix_append word back))
  | cons x front ih =>
      obtain ⟨rest, rfl, missed, later⟩ := first.tail
      have found := ih later (offset + x.utf8Size) (some x)
      rw [Cursor.past_cons offset before] at found
      rw [findFrom?, takes.matchAt_missed missed, List.cons_append, String.utf8Len_cons,
        Nat.add_comm (utf8Len front), ← Nat.add_assoc]
      exact found

theorem Takes.findFrom_absent (takes : f.Takes word) (absent : ¬ word <:+: text) (offset : Nat)
    (before : Option Char) : f.findFrom? offset before text = none := by
  induction text generalizing offset before with
  | nil => exact takes.matchAt_missed fun begins => absent begins.isInfix
  | cons x rest ih =>
      rw [findFrom?, takes.matchAt_missed fun begins => absent begins.isInfix]
      exact ih (fun occurs => absent (occurs.trans (List.suffix_cons x rest).isInfix)) _ _

theorem Takes.firstMatch (takes : f.Takes word) (first : FirstAt word text front back) :
    f.firstMatch? text = some ⟨⟨utf8Len front, utf8Len front + utf8Len word⟩, []⟩ := by
  have found := takes.findFrom first 0 none
  rw [Nat.zero_add] at found
  exact congrArg (Option.map (·.1)) found

theorem Takes.firstMatch_isSome (takes : f.Takes word) (text : List Char) :
    (f.firstMatch? text).isSome ↔ word <:+: text := by
  constructor
  · intro found
    by_contra absent
    have missed : f.firstMatch? text = none := by
      rw [firstMatch?, find?, Cursor.ofText, takes.findFrom_absent absent]
      rfl
    rw [missed] at found
    cases found
  · intro occurs
    obtain ⟨front, back, first⟩ := exists_firstAt occurs
    rw [takes.firstMatch first]
    rfl

/-- Behind a match the search goes on to the next occurrence. There is fuel for every place of the
text. -/
theorem Takes.matchesFrom (takes : f.Takes word) (filled : word ≠ []) {fuel : Nat}
    (last : Option Nat) {c : Cursor} (room : c.rest.length < fuel) :
    ∃ starts, Occurrences word c.offset c.rest starts ∧
      (f.matchesFrom fuel last c).map (·.extent) =
        starts.map fun n => ⟨n, n + utf8Len word⟩ := by
  -- on the fuel; each turn uses up at least the word, so that fuel for all places is enough
  induction fuel generalizing last c with
  | zero => exact absurd room (Nat.not_lt_zero _)
  | succ fuel ih =>
      by_cases occurs : word <:+: c.rest
      · obtain ⟨front, back, first⟩ := exists_firstAt occurs
        let stop := c.past (front ++ word)
        have behind : stop.rest = back := by
          change c.rest.drop (front ++ word).length = back
          rw [first.split]
          simp
        have offset : stop.offset = c.offset + utf8Len front + utf8Len word := by
          simp [stop, Cursor.past, Nat.add_assoc]
        have shorter := first.shorter filled
        obtain ⟨starts, rest, matches_rest⟩ :=
          ih (some (c.offset + utf8Len front + utf8Len word)) (c := stop) (by rw [behind]; omega)
        rw [behind, offset] at rest
        refine ⟨_, .next first rest, ?_⟩
        rw [Form.matchesFrom, find?, takes.findFrom first]
        simp [Match.isEmpty, filled, matches_rest, stop]
      · refine ⟨[], .none occurs, ?_⟩
        rw [Form.matchesFrom, find?, takes.findFrom_absent occurs]
        rfl

theorem Takes.allMatches (takes : f.Takes word) (filled : word ≠ []) (text : List Char) :
    ∃ starts, Occurrences word 0 text starts ∧
      (f.allMatches text).map (·.extent) = starts.map fun n => ⟨n, n + utf8Len word⟩ :=
  takes.matchesFrom filled none (c := .ofText text) (by change text.length < _; omega)

end Form

end ScriptTypes.Pattern
