import ScriptTypes.Pattern.Reader

namespace ScriptTypes.Pattern

open ScriptTypes.Text

abbrev Group := Nat × Option String

abbrev PlacedGroup := Position × Group

theorem bind_eq_ok {α β : Type} {x : Except Fault α} {f : α → Except Fault β} {b : β} :
    x >>= f = .ok b ↔ ∃ a, x = .ok a ∧ f a = .ok b := by
  cases x with
  | error fault =>
      constructor
      · intro absurd
        cases absurd
      · rintro ⟨a, absurd, -⟩
        cases absurd
  | ok a =>
      constructor
      · intro result
        exact ⟨a, rfl, result⟩
      · rintro ⟨_, same, result⟩
        cases same
        exact result

mutual

def Expr.groups : Expr → List Group
  | repetition _ _ _ _ body => body.groups
  | group _ (.capture index name) body => (index, name) :: body.groups
  | group _ (.plain _) body => body.groups
  | concat _ parts => Expr.allGroups parts
  | alternation _ branches => Expr.allGroups branches
  | _ => []

def Expr.allGroups : List Expr → List Group
  | [] => []
  | e :: rest => e.groups ++ Expr.allGroups rest

end

mutual

def Expr.openings : Expr → List PlacedGroup
  | repetition _ _ _ _ body => body.openings
  | group span (.capture index name) body => (span.start, index, name) :: body.openings
  | group _ (.plain _) body => body.openings
  | concat _ parts => Expr.allOpenings parts
  | alternation _ branches => Expr.allOpenings branches
  | _ => []

def Expr.allOpenings : List Expr → List PlacedGroup
  | [] => []
  | e :: rest => e.openings ++ Expr.allOpenings rest

end

mutual

theorem Expr.groups_eq (e : Expr) : e.groups = e.openings.map (·.2) := by
  cases e with
  | repetition span low high greedy body => exact body.groups_eq
  | group span kind body =>
      cases kind with
      | capture index name => exact congrArg ((index, name) :: ·) body.groups_eq
      | plain changes => exact body.groups_eq
  | concat span parts => exact Expr.allGroups_eq parts
  | alternation span branches => exact Expr.allGroups_eq branches
  | _ => rfl

theorem Expr.allGroups_eq (es : List Expr) :
    Expr.allGroups es = (Expr.allOpenings es).map (·.2) := by
  cases es with
  | nil => rfl
  | cons e rest =>
      rw [Expr.allGroups, Expr.allOpenings, e.groups_eq, Expr.allGroups_eq rest, List.map_append]

end

@[simp] theorem allOpenings_append (front back : List Expr) :
    Expr.allOpenings (front ++ back) = Expr.allOpenings front ++ Expr.allOpenings back := by
  induction front with
  | nil => rfl
  | cons e front ih => simp only [List.cons_append, Expr.allOpenings, ih, List.append_assoc]

@[simp] theorem allOpenings_singleton (e : Expr) : Expr.allOpenings [e] = e.openings :=
  List.append_nil _

def GroupKind.openings (place : Position) : GroupKind → List PlacedGroup
  | .capture index name => [(place, index, name)]
  | .plain _ => []

theorem openings_group (span : Span) (kind : GroupKind) (body : Expr) :
    (Expr.group span kind body).openings = kind.openings span.start ++ body.openings := by
  cases kind <;> rfl

def levelOpenings (branches : Option Branches) (last : Sequence) : List PlacedGroup :=
  (branches.elim [] fun b => Expr.allOpenings b.done.reverse) ++
    Expr.allOpenings last.parts.reverse

def Frame.openings (f : Frame) : List PlacedGroup :=
  levelOpenings f.outerBranches f.outer ++ f.kind.openings f.opening.start

def Mode.target? : Mode → Option Expr
  | .quantifier _ _ target => some target
  | .count _ target _ => some target
  | .counted _ _ _ target => some target
  | _ => none

def Mode.openings (m : Mode) : List PlacedGroup := m.target?.elim [] Expr.openings

theorem Mode.openings_of_none {m : Mode} (holds_none : m.target? = none) : m.openings = [] := by
  rw [openings, holds_none]
  rfl

theorem openings_close (s : Sequence) (stop : Position) :
    (s.close stop).openings = Expr.allOpenings s.parts.reverse := by
  unfold Sequence.close
  split
  · rename_i none_left
    rw [none_left]
    rfl
  · rename_i e single
    rw [single]
    exact (allOpenings_singleton e).symm
  · rfl

theorem openings_closeLevel (branches : Option Branches) (last : Sequence) (stop : Position) :
    (closeLevel branches last stop).openings = levelOpenings branches last := by
  cases branches with
  | none => exact openings_close last stop
  | some b =>
      simp [closeLevel, Expr.openings, openings_close, levelOpenings]

@[simp] theorem levelOpenings_push (branches : Option Branches) (s : Sequence) (e : Expr) :
    levelOpenings branches (s.push e) = levelOpenings branches s ++ e.openings := by
  simp [levelOpenings, Sequence.push, List.append_assoc]

namespace Reader

/-- The groups opened in all that stands before what the mode holds. -/
def settledOpenings (r : Reader) : List PlacedGroup :=
  r.frames.reverse.flatMap Frame.openings ++ levelOpenings r.branches r.sequence

def openings (r : Reader) : List PlacedGroup := r.settledOpenings ++ r.mode.openings

def groups (r : Reader) : List Group := r.openings.map (·.2)

structure SameGroups (r next : Reader) : Prop where
  openings : next.openings = r.openings
  captures : next.captures = r.captures
  names : next.names = r.names

structure OneMore (r next : Reader) (place : Position) (name : Option String) : Prop where
  openings : next.openings = r.openings ++ [(place, r.captures + 1, name)]
  captures : next.captures = r.captures + 1
  fresh : ∀ n, name = some n → r.names.lookup n = none
  names : next.names.map (·.1) = name.toList ++ r.names.map (·.1)

variable {r next : Reader} {c : Char} {rest : List Char}

theorem SameGroups.groups (same : SameGroups r next) : next.groups = r.groups := by
  rw [Reader.groups, Reader.groups, same.openings]

theorem OneMore.groups {place : Position} {name : Option String} (more : OneMore r next place name) :
    next.groups = r.groups ++ [(r.captures + 1, name)] := by
  rw [Reader.groups, Reader.groups, more.openings, List.map_append]
  rfl

@[simp] theorem settledOpenings_push (e : Expr) :
    (r.push e).settledOpenings = r.settledOpenings ++ e.openings := by
  simp [settledOpenings, push]

theorem openings_of_calm (calm : r.mode.openings = []) : r.openings = r.settledOpenings := by
  rw [openings, calm, List.append_nil]

theorem same_of_settled (calm : r.mode.openings = []) (calm_next : next.mode.openings = [])
    (settled : next.settledOpenings = r.settledOpenings) (captures : next.captures = r.captures)
    (names : next.names = r.names) : SameGroups r next :=
  ⟨by rw [openings_of_calm calm, openings_of_calm calm_next, settled], captures, names⟩

theorem same_become (calm : r.mode.openings = []) (mode : Mode) (plain : mode.openings = []) :
    SameGroups r (r.become c mode) :=
  same_of_settled calm plain rfl rfl rfl

theorem same_push (calm : r.mode.openings = []) (e : Expr) (plain : e.openings = []) :
    SameGroups r (r.push e) :=
  same_of_settled calm rfl (by rw [settledOpenings_push, plain, List.append_nil]) rfl rfl

theorem same_pass : SameGroups r (r.pass c) := ⟨rfl, rfl, rfl⟩

theorem takeTarget_openings {target : Expr} (taken : r.takeTarget = .ok (target, next)) :
    next.settledOpenings ++ target.openings = r.settledOpenings ∧ next.captures = r.captures ∧
      next.names = r.names ∧ next.mode = r.mode := by
  unfold takeTarget at taken
  split at taken
  · rename_i e parts split_parts
    split at taken
    · cases taken
      refine ⟨?_, rfl, rfl, rfl⟩
      simp [settledOpenings, levelOpenings, split_parts]
    · cases taken
  · cases taken

theorem same_closeGroup (calm : r.mode.openings = []) (closed : r.closeGroup c = .ok next) :
    SameGroups r next := by
  unfold closeGroup at closed
  split at closed
  · cases closed
  · rename_i frame frames split_frames
    cases closed
    refine same_of_settled calm rfl ?_ rfl rfl
    simp [settledOpenings, split_frames, Frame.openings, openings_group, openings_closeLevel]

theorem same_closeBranch (calm : r.mode.openings = []) : SameGroups r (r.closeBranch c) := by
  refine same_of_settled calm calm ?_ rfl rfl
  cases split_branches : r.branches with
  | none =>
      simp [settledOpenings, closeBranch, split_branches, levelOpenings, openings_close,
        Expr.allOpenings]
  | some b =>
      simp [settledOpenings, closeBranch, split_branches, levelOpenings, openings_close,
        Expr.allOpenings]

theorem settledOpenings_openGroup (opening : Span) (kind : GroupKind) :
    (r.openGroup opening kind).settledOpenings = r.settledOpenings ++ kind.openings opening.start := by
  simp [settledOpenings, openGroup, Frame.openings, levelOpenings, Expr.allOpenings]

theorem openings_openCapture (opening : Span) (name : Option String) :
    (r.openCapture opening name).openings =
      r.settledOpenings ++ [(opening.start, r.captures + 1, name)] := by
  rw [openings_of_calm rfl, openCapture, settledOpenings_openGroup]
  rfl

end Reader

end ScriptTypes.Pattern
