import ScriptTypes.Proofs.Pattern.Groups
import ScriptTypes.Proofs.Pattern.Items

/-!
What a character can do to a reader. It is refused; or it turns to another mode, puts an expression
behind those that have been read or opens a group, and may then be taken as the next item. It does
so in the same way whatever has been put together before, but for an item of a sequence: an operator
or a parenthesis that closes looks at what stands there.
-/

namespace ScriptTypes.Pattern

open ScriptTypes.Text

def Place.inClass : Place → Bool
  | sequence => false
  | _ => true

def Mode.inClass : Mode → Bool
  | escape _ place => place.inClass
  | wordEdge _ place => place.inClass
  | wordEdgeOpen _ _ place => place.inClass
  | wordEdgeName _ _ _ _ place => place.inClass
  | hexOpen _ _ place => place.inClass
  | hexDigits _ _ _ _ place => place.inClass
  | hexEnd _ _ _ _ place => place.inClass
  | hexBrace _ _ _ place => place.inClass
  | hexBraceEnd _ _ _ _ _ place => place.inClass
  | propertyOpen _ _ place => place.inClass
  | propertyName _ _ _ place => place.inClass
  | propertyLetter _ _ _ place => place.inClass
  | classOpen _ _ _ _ => true
  | member => true
  | memberEnd _ => true
  | dash _ _ _ _ => true
  | doubled _ _ => true
  | asciiClass _ _ => true
  | _ => false

def Mode.isEscape : Mode → Bool
  | escape _ _ => true
  | _ => false

def Mode.isHeader : Mode → Bool
  | groupOpen _ => true
  | groupMark _ _ => true
  | groupLetter _ _ => true
  | groupAngle _ => true
  | groupName _ _ _ => true
  | _ => false

/-- Whether what waits for its repetition operator stays. Where nothing waits, an expression that
opens no group may come to. -/
def Mode.Carries (old next : Mode) : Prop :=
  next.target? = old.target? ∨ old.target? = none ∧ next.openings = []

structure Mode.Turn (c : Char) (old next : Mode) : Prop where
  carries : old.Carries next
  inClass : next.inClass = old.inClass
  /-- Only a backslash opens an escape. -/
  escape : next.isEscape = true → c = '\\'
  /-- Where an item may begin, one could begin before. -/
  ready : next = .sequence → old = .sequence
  /-- The opening of a group begins where an item may begin. -/
  header : next.isHeader = true → old.isHeader = true

inductive Mode.Makes (m : Mode) : Expr → Prop
  | item {e : Expr} (holds_none : m.target? = none) (opens_none : e.openings = []) : Makes m e
  | repetition {target : Expr} (holds : m.target? = some target) (span : Span) (low : Nat)
      (high : Option Nat) (greedy : Bool) : Makes m (.repetition span low high greedy target)

inductive Mode.Names (c : Char) : Mode → Span → Option String → Prop
  | unnamed (opening : Span) : Names c (.groupOpen opening) opening none
  | named (opening : Span) (start : Position) (name : List Char) (same : c = '>') :
      Names c (.groupName opening start name) opening (some (.ofList name.reverse))

namespace Mode

variable {c : Char} {m old next last : Mode}

theorem target_inClass (inside : m.inClass = true) : m.target? = none := by
  cases m <;> first | rfl | cases inside

theorem header_inClass (inside : m.inClass = true) : m.isHeader = false := by
  cases m <;> first | rfl | cases inside

theorem Names.holds_none {opening : Span} {name : Option String} (names : m.Names c opening name) :
    m.target? = none := by
  cases names <;> rfl

theorem Names.outside {opening : Span} {name : Option String} (names : m.Names c opening name) :
    m.inClass = false := by
  cases names <;> rfl

theorem Carries.openings (carries : old.Carries next) : next.openings = old.openings := by
  rcases carries with same | ⟨holds_none, opens_none⟩
  · rw [Mode.openings, Mode.openings, same]
  · rw [opens_none, openings_of_none holds_none]

theorem Carries.trans (first : old.Carries next) (then_carries : next.Carries last) :
    old.Carries last := by
  rcases then_carries with same | ⟨holds_none, opens_none⟩
  · rcases first with before | ⟨holds_none, opens_none⟩
    · exact .inl (same.trans before)
    · refine .inr ⟨holds_none, ?_⟩
      rw [Mode.openings, same]
      exact opens_none
  · rcases first with before | ⟨none_before, -⟩
    · exact .inr ⟨before.symm.trans holds_none, opens_none⟩
    · exact .inr ⟨none_before, opens_none⟩

theorem Makes.openings {e : Expr} (made : m.Makes e) : e.openings = m.openings := by
  cases made with
  | item holds_none opens_none => rw [opens_none, openings_of_none holds_none]
  | repetition holds span low high greedy =>
      rw [Mode.openings, holds]
      rfl

theorem Makes.after {e : Expr} (made : next.Makes e) (carries : old.Carries next) :
    old.Makes e := by
  cases made with
  | item holds_none opens_none =>
      rcases carries with same | ⟨none_before, -⟩
      · exact .item (same.symm.trans holds_none) opens_none
      · exact .item none_before opens_none
  | repetition holds span low high greedy =>
      rcases carries with same | ⟨none_before, opens_none⟩
      · exact .repetition (same.symm.trans holds) span low high greedy
      · rw [Mode.openings, holds] at opens_none
        exact .item none_before opens_none

end Mode

structure Outline where
  sequence : Sequence
  branches : Option Branches
  frames : List Frame

def Outline.push (o : Outline) (e : Expr) : Outline := { o with sequence := o.sequence.push e }

def Outline.openGroup (o : Outline) (opening : Span) (kind : GroupKind) (spaced : Bool)
    (inner : Position) : Outline :=
  ⟨⟨inner, []⟩, none, ⟨opening, kind, o.sequence, o.branches, spaced⟩ :: o.frames⟩

namespace Reader

variable {r s next : Reader} {o : Outline} {c : Char} {x y : Except Fault Reader}

def outline (r : Reader) : Outline := ⟨r.sequence, r.branches, r.frames⟩

def withOutline (r : Reader) (o : Outline) : Reader :=
  { r with sequence := o.sequence, branches := o.branches, frames := o.frames }

@[simp] theorem withOutline_position : (r.withOutline o).position = r.position := rfl
@[simp] theorem withOutline_mode : (r.withOutline o).mode = r.mode := rfl
@[simp] theorem withOutline_layers : (r.withOutline o).layers = r.layers := rfl
@[simp] theorem withOutline_members : (r.withOutline o).members = r.members := rfl
@[simp] theorem withOutline_names : (r.withOutline o).names = r.names := rfl

structure Beside (r s : Reader) : Prop where
  outline : s.outline = r.outline
  captures : s.captures = r.captures
  names : s.names = r.names

theorem Beside.trans (first : Beside r s) (last : Beside s next) : Beside r next :=
  ⟨last.outline.trans first.outline, last.captures.trans first.captures,
    last.names.trans first.names⟩

/-- What a character can do before it is taken as an item: to the reader, and to an outline in place
of the reader's own. -/
inductive Change (c : Char) (r : Reader) (o : Outline) : Reader → Outline → Prop
  | turn (s : Reader) (beside : Beside r s) (mode : r.mode.Turn c s.mode) : Change c r o s o
  /-- What the mode holds becomes an expression; a class becomes one at its closing bracket. -/
  | put (s : Reader) (beside : Beside r s) (e : Expr) (made : r.mode.Makes e)
      (closes : r.mode.inClass = true → c = ']') : Change c r o (s.push e) (o.push e)

inductive Opens (c : Char) (r : Reader) (o : Outline) : Reader → Outline → Prop
  | plain (s : Reader) (beside : Beside r s) (holds_none : r.mode.target? = none)
      (outside : r.mode.inClass = false) (opening : Span) (changes : FlagChanges) :
      Opens c r o (s.openGroup opening (.plain changes))
        (o.openGroup opening (.plain changes) s.spaced s.position)
  | capture (s : Reader) (outline : s.outline = r.outline) (captures : s.captures = r.captures)
      (name : Option String) (fresh : ∀ n, name = some n → r.names.lookup n = none)
      (names : s.names.map (·.1) = name.toList ++ r.names.map (·.1)) {opening : Span}
      (origin : r.mode.Names c opening name) :
      Opens c r o (s.openCapture opening name)
        (o.openGroup opening (.capture (s.captures + 1) name) s.spaced s.position)

inductive Changes (c : Char) (r : Reader) (o : Outline) :
    Except Fault Reader → Except Fault Reader → Prop
  | refuse (fault : Fault) : Changes c r o (.error fault) (.error fault)
  | done {s : Reader} {o' : Outline} (change : Change c r o s o') :
      Changes c r o (.ok s) (.ok (s.withOutline o'))

inductive ItemStep (c : Char) (r : Reader) (o : Outline) :
    Except Fault Reader → Except Fault Reader → Prop
  | changes {x y : Except Fault Reader} (changes : Changes c r o x y) : ItemStep c r o x y
  | sequence {step : Reader → Except Fault Reader} (ready : r.mode = .sequence)
      (shape : SequenceStep c step) : ItemStep c r o (step r) (step (r.withOutline o))

inductive ModeStep (c : Char) (r : Reader) (o : Outline) :
    Except Fault Reader → Except Fault Reader → Prop
  | item {x y : Except Fault Reader} (item : ItemStep c r o x y) : ModeStep c r o x y
  | settled {s : Reader} {o' : Outline} {x y : Except Fault Reader} (first : Change c r o s o')
      (item : ItemStep c s o' x y) : ModeStep c r o x y
  | opened {s : Reader} {o' : Outline} {x y : Except Fault Reader} (first : Opens c r o s o')
      (item : ItemStep c s o' x y) : ModeStep c r o x y

theorem Change.escape {o' : Outline} (change : Change c r o s o') :
    s.mode.isEscape = true → c = '\\' := by
  cases change with
  | turn s beside mode => exact mode.escape
  | put s beside e made closes => nofun

theorem Change.after {o' : Outline} (change : Change c s o next o') (beside : Beside r s)
    (mode : r.mode.Turn c s.mode) : Change c r o next o' := by
  cases change with
  | turn next beside' mode' =>
      exact .turn next (beside.trans beside') ⟨mode.carries.trans mode'.carries,
        mode'.inClass.trans mode.inClass, mode'.escape, mode.ready ∘ mode'.ready,
        mode.header ∘ mode'.header⟩
  | put next beside' e made closes =>
      exact .put next (beside.trans beside') e (made.after mode.carries) fun inside =>
        closes (mode.inClass.trans inside)

theorem Change.pass {o' : Outline} (change : Change c r o s o') : Change c r o (s.pass c) o' := by
  cases change with
  | turn s beside mode =>
      exact .turn (s.pass c) ⟨beside.outline, beside.captures, beside.names⟩
        ⟨mode.carries, mode.inClass, mode.escape, mode.ready, mode.header⟩
  | put s beside e made closes =>
      exact .put (s.pass c) ⟨beside.outline, beside.captures, beside.names⟩ e made closes

theorem Changes.after (changes : Changes c s o x y) (beside : Beside r s)
    (mode : r.mode.Turn c s.mode) : Changes c r o x y := by
  cases changes with
  | refuse fault => exact .refuse fault
  | done change => exact .done (change.after beside mode)

theorem Changes.pass (changes : Changes c r o x y) :
    Changes c r o (do return (← x).pass c) (do return (← y).pass c) := by
  cases changes with
  | refuse fault => exact .refuse fault
  | done change => exact .done change.pass

/-- What could not be made of the text read is refused for every outline. -/
theorem changes_bind {α : Type} (made : Except Fault α) {f g : α → Except Fault Reader}
    (changes : ∀ a, Changes c r o (f a) (g a)) : Changes c r o (made >>= f) (made >>= g) := by
  cases made with
  | error fault => exact .refuse fault
  | ok a => exact changes a

theorem changes_become {old : Mode} (mode : r.mode = old) {next : Mode} (turn : old.Turn c next) :
    Changes c r o (.ok (r.become c next)) (.ok ((r.withOutline o).become c next)) := by
  subst mode
  exact .done (.turn (r.become c next) ⟨rfl, rfl, rfl⟩ turn)

theorem ModeStep.of_opens {o' : Outline} (opens : Opens c r o s o') :
    ModeStep c r o (.ok s) (.ok (s.withOutline o')) := by
  refine .opened opens (.changes (.done (.turn s ⟨rfl, rfl, rfl⟩ ?_)))
  cases opens <;> exact ⟨.inl rfl, rfl, nofun, id, id⟩

theorem ModeStep.of_changes (changes : Changes c r o x y) : ModeStep c r o x y :=
  .item (.changes changes)

end Reader

end ScriptTypes.Pattern
