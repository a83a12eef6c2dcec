import ScriptTypes.Plural
import ScriptTypes.Proofs.Pattern.Joining
import ScriptTypes.Proofs.Pattern.Numbering

namespace ScriptTypes.Pattern

open ScriptTypes.Plural
open ScriptTypes.Text

def suffixName (p : Position) : Span :=
  let start := ['(', '?', '<'].foldl Position.after p
  ⟨start, ['p', 'l', 'u', 'r', 'a', 'l'].foldl Position.after start⟩

def suffixGroup (p : Position) (index : Nat) : Expr :=
  let inner := opener.foldl Position.after p
  .group ⟨p, inner.after ')'⟩ (.capture index (some groupName)) (.empty ⟨inner, inner⟩)

def suffixItem (p : Position) (index : Nat) : Expr :=
  .repetition ⟨p, suffix.foldl Position.after p⟩ 0 (some 1) false (suffixGroup p index)

/-- Whether a text ends inside a comment, which takes what is put behind it. -/
def endsInComment (text : List Char) : Bool :=
  match Reader.initial.run text with
  | .ok r => r.inComment
  | .error _ => false

namespace Reader

variable {r s : Reader}

def inSuffixName (s : Reader) : Reader :=
  { s with
    position := (suffixName s.position).stop
    mode := .groupName (.char s.position '(') (suffixName s.position).start
      ['l', 'a', 'r', 'u', 'l', 'p'] }

def openPlural (s : Reader) : Reader :=
  { s with
    position := opener.foldl Position.after s.position
    names := (groupName, suffixName s.position) :: s.names }.openCapture
      (.char s.position '(') (some groupName)

def takeSuffix (s : Reader) : Reader :=
  { s with
    position := suffix.foldl Position.after s.position
    sequence := s.sequence.push (suffixItem s.position (s.captures + 1))
    captures := s.captures + 1
    names := (groupName, suffixName s.position) :: s.names }

theorem suffix_completes_nothing : CompletesNothing suffix := by
  refine ⟨by decide, by decide⟩

theorem run_suffix_name (s : Reader) (awake : s.inComment = false) (rest : List Char) :
    (s.become '(' (.groupOpen (.char s.position '('))).run
        (['?', '<', 'p', 'l', 'u', 'r', 'a', 'l'] ++ rest) = s.inSuffixName.run rest := by
  obtain ⟨position, mode, spaced, inComment, sequence, branches, frames, layers, members, captures,
    names⟩ := s
  cases awake
  cases spaced <;> rfl

theorem step_suffix_name (s : Reader) (awake : s.inComment = false) (rest : List Char) :
    s.inSuffixName.step '>' rest =
      match s.names.lookup groupName with
      | some earlier => .error ⟨.groupNameDuplicate, suffixName s.position, some earlier⟩
      | none => .ok s.openPlural := by
  have text : String.ofList ['l', 'a', 'r', 'u', 'l', 'p'].reverse = groupName := rfl
  have calm : s.inSuffixName.inComment = false := awake
  rw [step_visible calm (by decide) (by decide)]
  simp only [stepMode, inSuffixName, stepGroupName, text]
  rfl

theorem run_opener (settled : r.settle = .ok s) (ready : s.mode = .sequence)
    (awake : r.inComment = false) (rest : List Char) :
    r.run (opener ++ rest) =
      match s.names.lookup groupName with
      | some earlier => .error ⟨.groupNameDuplicate, suffixName s.position, some earlier⟩
      | none => s.openPlural.run rest := by
  have awake_s : s.inComment = false := (settle_inComment settled ready).trans awake
  have split_text : opener ++ rest =
      '(' :: (['?', '<', 'p', 'l', 'u', 'r', 'a', 'l'] ++ '>' :: rest) := rfl
  rw [split_text, run, step_paren settled ready awake]
  simp only [bind, Except.bind]
  rw [run_suffix_name s awake_s, run, step_suffix_name s awake_s]
  cases s.names.lookup groupName with
  | some earlier => rfl
  | none => rfl

def closeOptional (s : Reader) (frame : Frame) (frames : List Frame) : Reader :=
  let stop := [')', '?', '?'].foldl Position.after s.position
  let group := .group ⟨frame.opening.start, s.position.after ')'⟩ frame.kind
    (closeLevel s.branches s.sequence s.position)
  { s with
    position := stop, frames,
    sequence := frame.outer.push (.repetition ⟨frame.opening.start, stop⟩ 0 (some 1) false group),
    branches := frame.outerBranches, spaced := frame.outerSpaced }

theorem run_end (s : Reader) (ready : s.mode = .sequence) (awake : s.inComment = false) :
    s.run [')', '?', '?'] =
      match s.frames with
      | [] => fail .groupUnopened (.char s.position ')')
      | frame :: frames => .ok (s.closeOptional frame frames) := by
  obtain ⟨position, mode, spaced, inComment, sequence, branches, frames, layers, members, captures,
    names⟩ := s
  cases ready
  cases awake
  cases frames with
  | nil => cases spaced <;> rfl
  | cons frame frames =>
      obtain ⟨opening, kind, outer, outerBranches, outerSpaced⟩ := frame
      cases spaced <;> cases outerSpaced <;> rfl

/-- Where an item may begin the suffix is read as its group, unless one of that name is open or
was opened before. -/
theorem run_suffix (settled : r.settle = .ok s) (ready : s.mode = .sequence)
    (awake : r.inComment = false) :
    r.run suffix =
      match s.names.lookup groupName with
      | some earlier => .error ⟨.groupNameDuplicate, suffixName s.position, some earlier⟩
      | none => .ok s.takeSuffix := by
  have awake_s : s.inComment = false := (settle_inComment settled ready).trans awake
  have split_suffix : suffix = opener ++ [')', '?', '?'] := rfl
  rw [split_suffix, run_opener settled ready awake]
  cases s.names.lookup groupName with
  | some earlier => rfl
  | none =>
      obtain ⟨position, mode, spaced, inComment, sequence, branches, frames, layers, members,
        captures, names⟩ := s
      cases ready
      exact run_end _ rfl awake_s

end Reader

end ScriptTypes.Pattern
