import Mathlib.Data.List.Induction
import ScriptTypes.Proofs.Pattern.Openers

/-!
How the openings of groups are spelled. Behind its parenthesis and white space that spaced reading
passes over, the opening of a group that has a name is a question mark, perhaps a letter, and the
name in angles; and an even number of backslashes stands before the parenthesis, or it would be
escaped.
-/

namespace ScriptTypes.Pattern

open ScriptTypes.Text

inductive Mode.Heads (opening : Span) : List Char → Mode → Prop
  | opened : Heads opening [] (.groupOpen opening)
  | mark (inner : Position) : Heads opening ['?'] (.groupMark opening inner)
  | letter (letter : Span) : Heads opening ['?', 'P'] (.groupLetter letter opening)
  | angle : Heads opening ['?', '<'] (.groupAngle opening)
  | name {mark : List Char} (marked : mark = [] ∨ mark = ['P']) (start : Position)
      (name : List Char) :
      Heads opening ('?' :: (mark ++ '<' :: name.reverse)) (.groupName opening start name)

/-- The parenthesis of a group between what stands before it and white space behind it, which
spaced reading passes over. -/
structure Header (before blanks : List Char) (place : Position) (spaced : Bool) : Prop where
  place : place = placeBehind before
  read : ∃ r, Reader.initial.run before = .ok r ∧ r.spaced = spaced
  even : backslashes before % 2 = 0
  blank : ∀ c ∈ blanks, isBlank c = true
  passed : blanks ≠ [] → spaced = true

def Spells (text : List Char) (place : Position) (name : String) : Prop :=
  ∃ before blanks mark rest spaced,
    text = before ++ '(' :: (blanks ++ '?' :: (mark ++ '<' :: (name.toList ++ '>' :: rest))) ∧
      (mark = [] ∨ mark = ['P']) ∧ Header before blanks place spaced

theorem Spells.append {text : List Char} {place : Position} {name : String}
    (spells : Spells text place name) (more : List Char) : Spells (text ++ more) place name := by
  obtain ⟨before, blanks, mark, rest, spaced, rfl, marked, header⟩ := spells
  exact ⟨before, blanks, mark, rest ++ more, spaced, by simp, marked, header⟩

namespace Reader

variable {r s next : Reader} {c : Char} {rest text head : List Char} {opening : Span}

/-! Only a parenthesis begins the opening of a group. -/

theorem kept_header (other : c ≠ '(') : Mode.Kept c fun m => m.isHeader = false where
  turn := fun turn closed => Bool.eq_false_iff.2 fun header =>
    Bool.false_ne_true (closed.symm.trans (turn.header header))
  first := by
    intro mode first
    cases first with
    | opening opening same => exact absurd same other
    | _ => rfl

theorem header_of_stepMode (other : c ≠ '(') (stepped : r.stepMode c rest = .ok next)
    (header : next.mode.isHeader = true) : r.mode.isHeader = true := by
  by_contra closed
  have still := stepMode_kept (kept_header other) stepped (Bool.eq_false_iff.2 closed)
  exact Bool.false_ne_true (still.symm.trans header)

theorem not_header_stepItem (other : c ≠ '(') (ready : s.mode = .sequence)
    (stepped : s.stepItem c rest = .ok next) : next.mode.isHeader = false :=
  (itemStep_ready (o := s.outline) ready).kept (kept_header other) stepped (by rw [ready]; rfl)

/-! What goes on with the opening of a group. -/

theorem heads_groupName {start : Position} {mark name : List Char}
    (marked : mark = [] ∨ mark = ['P'])
    (stepped : r.stepGroupName opening start name c = .ok next)
    (header : next.mode.isHeader = true) :
    next.mode.Heads opening ('?' :: (mark ++ '<' :: name.reverse) ++ [c]) ∧
      next.spaced = r.spaced := by
  unfold stepGroupName at stepped
  split at stepped
  · dsimp only at stepped
    split at stepped
    · cases stepped
    split at stepped
    · cases stepped
    · cases stepped
      cases header
  by_cases allowed : (if name.isEmpty then isNameStart c else isNamePart c) = true
  · rw [if_pos allowed] at stepped
    cases stepped
    have longer : '?' :: (mark ++ '<' :: name.reverse) ++ [c] =
        '?' :: (mark ++ '<' :: (c :: name).reverse) := by simp
    rw [longer]
    exact ⟨.name marked start (c :: name), rfl⟩
  · rw [if_neg allowed] at stepped
    cases stepped

theorem not_header_groupFlags {inner : Position} {items : List FlagItem}
    (stepped : r.stepGroupFlags opening inner items c = .ok next) :
    next.mode.isHeader = false := by
  unfold stepGroupFlags at stepped
  dsimp only at stepped
  split at stepped
  · split at stepped
    · cases stepped
    split at stepped
    · cases stepped; rfl
    split at stepped
    · cases stepped
    · cases stepped; rfl
  split at stepped
  · split at stepped
    · cases stepped
    · cases stepped; rfl
  split at stepped
  · split at stepped
    · cases stepped
    · cases stepped; rfl
  · cases stepped

theorem stepMode_heads (heads : r.mode.Heads opening head) (other : c ≠ '(')
    (stepped : r.stepMode c rest = .ok next) (header : next.mode.isHeader = true) :
    next.mode.Heads opening (head ++ [c]) ∧ next.spaced = r.spaced := by
  -- what follows a header is the header with one more character, or is none any more
  generalize own : r.mode = mode at heads
  cases heads with
  | opened =>
      simp only [stepMode, own] at stepped
      split at stepped
      · rename_i mark
        subst mark
        cases stepped
        exact ⟨.mark _, rfl⟩
      · have closed := not_header_stepItem other rfl stepped
        exact absurd (closed.symm.trans header) Bool.false_ne_true
  | mark inner =>
      simp only [stepMode, own, stepGroupMark] at stepped
      split at stepped
      · cases stepped
      split at stepped
      · rename_i angle
        subst angle
        cases stepped
        exact ⟨.angle, rfl⟩
      split at stepped
      · rename_i letter
        subst letter
        cases stepped
        exact ⟨.letter _, rfl⟩
      · exact absurd ((not_header_groupFlags stepped).symm.trans header) Bool.false_ne_true
  | letter letter =>
      simp only [stepMode, own] at stepped
      split at stepped
      · rename_i angle
        subst angle
        cases stepped
        exact ⟨.name (.inr rfl) _ [], rfl⟩
      · cases stepped
  | angle =>
      simp only [stepMode, own, stepGroupAngle] at stepped
      split at stepped
      · cases stepped
      · exact heads_groupName (.inl rfl) stepped header
  | name marked start name =>
      simp only [stepMode, own] at stepped
      exact heads_groupName marked stepped header

def Headed (text : List Char) (r : Reader) : Prop :=
  r.mode.isHeader = true → ∃ before blanks head opening,
    text = before ++ '(' :: (blanks ++ head) ∧ r.mode.Heads opening head ∧
      Header before blanks opening.start r.spaced

theorem headed_openParen (simple : Simple text) (read : initial.run text = .ok r)
    (still : Still r s) (spaced : s.spaced = r.spaced)
    (place : (∃ s, r.settle = .ok s ∧ s.mode = .sequence) ∨ ∃ opening, r.mode = .groupOpen opening) :
    Headed (text ++ ['(']) s.openParen := by
  intro header
  obtain ⟨outside, position, awake⟩ := simple.run read
  refine ⟨text, [], [], .char s.position '(', rfl, .opened, ?_⟩
  exact ⟨still.position.trans position, ⟨r, read, spaced.symm⟩,
    (run_paired paired_initial read).even awake place, nofun, absurd rfl⟩

theorem headed_paren (simple : Simple text) (read : initial.run text = .ok r)
    (stepped : r.step '(' rest = .ok next) : Headed (text ++ ['(']) next := by
  obtain ⟨outside, position, awake⟩ := simple.run read
  cases paren_role outside awake stepped with
  | opens s still spaced place same =>
      subst same
      exact headed_openParen simple read still spaced place
  | escaped start mode ready =>
      intro header
      rw [ready] at header
      cases header
  | property strange =>
      intro header
      generalize next.mode = mode at strange header
      cases strange <;> cases header

/-- The opening of a group goes on with each character, white space directly behind the parenthesis
apart. -/
theorem headed_step (simple : Simple (text ++ [c])) (read : initial.run text = .ok r)
    (headed : Headed text r) (stepped : r.step c rest = .ok next) :
    Headed (text ++ [c]) next := by
  obtain ⟨outside, position, awake⟩ := simple.of_append.run read
  by_cases paren : c = '('
  · subst paren
    exact headed_paren simple.of_append read stepped
  have no_sign : c ≠ '#' := by
    rintro rfl
    exact simple.no_sign (by simp)
  intro header
  cases step_taken stepped with
  | passed commented skips begun same =>
      rw [same, observe_outside outside] at header ⊢
      obtain ⟨spaced, passes, blank⟩ := skips.resolve_left (Bool.eq_false_iff.1 awake)
      have blank := blank.resolve_right no_sign
      obtain ⟨before, blanks, head, opening, rfl, heads, around⟩ := headed header
      -- only directly behind the parenthesis is white space passed over in an opening
      have none_read : head = [] := by
        generalize r.mode = mode at heads passes
        cases heads <;> first | rfl | cases passes
      subst none_read
      refine ⟨before, blanks ++ [c], [], opening, by simp, heads, ?_⟩
      exact { around with
        blank := List.forall_mem_append.2 ⟨around.blank, List.forall_mem_singleton.2 blank⟩
        passed := fun _ => spaced }
  | read awake visible stepped =>
      have before := header_of_stepMode paren stepped header
      obtain ⟨before, blanks, head, opening, rfl, heads, around⟩ := headed before
      obtain ⟨longer, spaced⟩ := stepMode_heads heads paren stepped header
      refine ⟨before, blanks, head ++ [c], opening, by simp, longer, ?_⟩
      rw [spaced]
      exact around

theorem spells_of_names {name : String} (headed : Headed text r)
    (names : r.mode.Names c opening (some name)) : Spells (text ++ [c]) opening.start name := by
  generalize own : r.mode = mode at names
  cases names with
  | named opening start letters same =>
      have header : r.mode.isHeader = true := by rw [own]; rfl
      obtain ⟨before, blanks, head, opening', rfl, heads, around⟩ := headed header
      rw [own] at heads
      cases heads with
      | @name mark marked start letters =>
          exact ⟨before, blanks, mark, [], _, by simp [same], marked, around⟩

/-- Every group of a simple text that has a name is spelled in it. -/
theorem named_run {text : List Char} (simple : Simple text) (read : initial.run text = .ok r) :
    Headed text r ∧ ∀ place index name, (place, index, some name) ∈ r.openings →
      Spells text place name := by
  -- from the end, as a header is known by the whole text before the reader
  induction text using List.reverseRecOn generalizing r with
  | nil =>
      cases read
      exact ⟨nofun, nofun⟩
  | append_singleton text c ih =>
      have plain := simple.of_append.no_bracket
      rw [run_append_plain plain] at read
      obtain ⟨middle, read, last⟩ := bind_eq_ok.1 read
      obtain ⟨next, stepped, last⟩ := bind_eq_ok.1 last
      cases last
      obtain ⟨headed, spelled⟩ := ih simple.of_append read
      refine ⟨headed_step simple read headed stepped, fun place index name member => ?_⟩
      rcases step_grows stepped with same | ⟨opening, given, names, more⟩
      · rw [same.openings] at member
        exact (spelled place index name member).append [c]
      · rw [more.openings] at member
        rcases List.mem_append.1 member with earlier | new
        · exact (spelled place index name earlier).append [c]
        · cases List.mem_singleton.1 new
          exact spells_of_names headed names

end Reader

/-- A group that has a name is spelled in the pattern at its place. -/
theorem named_group_spelled {text : List Char} {e : Expr} (simple : Simple text)
    (spelled : Expr.ofText? text = .ok e) {place : Position} {index : Nat} {name : String}
    (member : (place, index, some name) ∈ e.openings) : Spells text place name := by
  obtain ⟨r, read, finished, -⟩ := ofText_eq_ok.1 spelled
  rw [Reader.openings_finish finished] at member
  exact (Reader.named_run simple read).2 place index name member

end ScriptTypes.Pattern
