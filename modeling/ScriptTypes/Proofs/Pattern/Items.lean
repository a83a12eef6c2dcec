import ScriptTypes.Proofs.Pattern.Places

namespace ScriptTypes.Pattern

open ScriptTypes.Text

def operators : List Char := ['?', '*', '+', '\x7b']

def specials : List Char :=
  ['\\', '.', '+', '*', '?', '(', ')', '|', '[', ']', '\x7b', '\x7d', '^', '$']

theorem dark_operator {c : Char} (operator : c ∈ operators) : isBlank c = false := by
  have all : operators.all (!isBlank ·) = true := by decide
  simpa using List.all_eq_true.1 all c operator

namespace Reader

inductive SequenceStep (c : Char) : (Reader → Except Fault Reader) → Prop
  | opens (same : c = '(') :
      SequenceStep c fun r => .ok (r.become c (.groupOpen (.char r.position c)))
  | closes (same : c = ')') : SequenceStep c fun r => r.closeGroup c
  | bar (same : c = '|') : SequenceStep c fun r => .ok (r.closeBranch c)
  | bracket (same : c = '[') :
      SequenceStep c fun r =>
        .ok ({ r with layers := [], members := ⟨r.here, []⟩ }.become c
          (.classOpen r.position .bracket false ⟨r.here, []⟩))
  | quantifier (low : Nat) (high : Option Nat) (same : c ∈ ['?', '*', '+']) :
      SequenceStep c fun r => do
        let (target, r) ← r.takeTarget
        return r.become c (.quantifier low high target)
  | brace (same : c = '\x7b') :
      SequenceStep c fun r => do
        let start := r.position
        let (target, r) ← r.takeTarget
        return r.become c (.count start target (.low {}))
  | escape (same : c = '\\') : SequenceStep c fun r => .ok (r.become c (.escape r.position .sequence))
  | item (make : Position → Atom) (blind : ∀ p q, (make p).unplaced = (make q).unplaced) :
      SequenceStep c fun r => .ok ((r.push (.atom (make r.position))).pass c)

theorem sequenceStep (c : Char) : SequenceStep c fun r => r.stepSequence c := by
  by_cases opens : c = '('
  · subst opens
    exact .opens rfl
  by_cases closes : c = ')'
  · subst closes
    exact .closes rfl
  by_cases bar : c = '|'
  · subst bar
    exact .bar rfl
  by_cases bracket : c = '['
  · subst bracket
    exact .bracket rfl
  by_cases mark : c = '?'
  · subst mark
    exact .quantifier 0 (some 1) (by decide)
  by_cases star : c = '*'
  · subst star
    exact .quantifier 0 none (by decide)
  by_cases plus : c = '+'
  · subst plus
    exact .quantifier 1 none (by decide)
  by_cases brace : c = '\x7b'
  · subst brace
    exact .brace rfl
  by_cases backslash : c = '\\'
  · subst backslash
    exact .escape rfl
  by_cases dot : c = '.'
  · subst dot
    exact .item (fun p => .dot (.char p '.')) fun _ _ => rfl
  by_cases caret : c = '^'
  · subst caret
    exact .item (fun p => .assertion (.char p '^') .lineStart) fun _ _ => rfl
  by_cases dollar : c = '$'
  · subst dollar
    exact .item (fun p => .assertion (.char p '$') .lineEnd) fun _ _ => rfl
  -- no special character is left, so that this one stands for itself
  simp only [stepSequence, opens, closes, bar, bracket, mark, star, plus, brace, backslash, dot,
    caret, dollar, if_false]
  exact .item (fun p => .literal ⟨.char p c, c, false⟩) fun _ _ => rfl

theorem stepSequence_plain {r : Reader} {c : Char} (plain : c ∉ specials) :
    r.stepSequence c =
      .ok ((r.push (.atom (.literal ⟨.char r.position c, c, false⟩))).pass c) := by
  simp only [specials, List.mem_cons, List.not_mem_nil, or_false, not_or] at plain
  obtain ⟨backslash, dot, plus, star, mark, opens, closes, bar, bracket, -, brace, -, caret,
    dollar⟩ := plain
  simp only [stepSequence, backslash, dot, plus, star, mark, opens, closes, bar, bracket, brace,
    caret, dollar, if_false]

end Reader

end ScriptTypes.Pattern
