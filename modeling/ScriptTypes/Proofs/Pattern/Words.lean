import ScriptTypes.Proofs.Pattern.Denoting
import ScriptTypes.Proofs.Pattern.Items
import ScriptTypes.Proofs.Pattern.Mending

namespace ScriptTypes.Pattern

open ScriptTypes.Plural
open ScriptTypes.Text

def Plain (text : List Char) : Prop := ∀ c ∈ text, c ∉ specials

instance (text : List Char) : Decidable (Plain text) := List.decidableBAll _ text

/-! ### Spelling -/

def choiceText (a b : List Char) : List Char :=
  '(' :: (a ++ '|' :: (opener ++ (b ++ [')', ')'])))

def optionalMarks (greedy : Bool) : List Char := if greedy then ['?'] else ['?', '?']

def optionalText (b : List Char) (greedy : Bool) : List Char :=
  opener ++ (b ++ ')' :: optionalMarks greedy)

def anchoredText (s b : List Char) : List Char := '^' :: (s ++ (optionalText b false ++ ['$']))

/-! ### Forms -/

namespace Form

def word (text : List Char) : Form := if text.isEmpty then .empty else .literal text

def led (text : List Char) (rest : Form) : Form :=
  concat ((text.map fun c => .literal [c]) ++ [rest])

def choice (s a b : List Char) : Form :=
  led s (.capture 1 none (.alternation [word a, .capture 2 (some groupName) (word b)]))

def optional (b : List Char) (greedy : Bool) : Form :=
  .repetition 0 (some 1) greedy (.capture 1 (some groupName) (word b))

def anchored (s b : List Char) : Form :=
  concat (.look .textStart :: (s.map fun c => .literal [c]) ++ [optional b false, .look .textEnd])

theorem joinLiterals_letters (text : List Char) :
    joinLiterals (text.map fun c => .literal [c]) = if text.isEmpty then [] else [.literal text] := by
  induction text with
  | nil => rfl
  | cons c rest ih =>
      rw [List.map_cons, joinLiterals, ih]
      cases rest <;> rfl

theorem concat_letters (text : List Char) : concat (text.map fun c => .literal [c]) = word text := by
  have flat : (text.map fun c => Form.literal [c]).flatMap parts = text.map fun c => .literal [c] := by
    induction text with
    | nil => rfl
    | cons c rest ih => exact congrArg (.literal [c] :: ·) ih
  rw [concat, flat, joinLiterals_letters, word]
  cases text <;> rfl

theorem alternation_word (a : List Char) (index : Nat) (name : Option String) (body : Form) :
    alternation [word a, capture index name body] = alt (word a) (capture index name body) := by
  have no_set : mergedSet? [word a, capture index name body] = none :=
    mergedSet_of_mem (List.mem_cons_of_mem _ List.mem_cons_self) rfl
  have flat : [word a, capture index name body].flatMap branches =
      [word a, capture index name body] := by
    cases a <;> rfl
  have unshared : sharedLength ([word a, capture index name body].map parts) = 0 := by
    cases a <;> rfl
  rw [alternation_unshared (by rw [flat, unshared]), alternationOf, flat]
  simp only [no_set]
  rfl

theorem captures_word (text : List Char) : (word text).captures = [] := by
  cases text <;> rfl

theorem captures_led (text : List Char) (rest : Form) : (led text rest).captures = rest.captures := by
  simp [led, captures_concat, captures]

theorem captures_choice (s a b : List Char) :
    (choice s a b).captures = [(1, none), (2, some groupName)] := by
  simp [choice, captures_led, alternation_word, captures, captures_word]

theorem captures_optional (b : List Char) (greedy : Bool) :
    (optional b greedy).captures = [(1, some groupName)] := by
  simp [optional, captures, captures_word]

theorem captures_anchored (s b : List Char) : (anchored s b).captures = [(1, some groupName)] := by
  simp [anchored, captures_concat, captures_optional, captures]

end Form

/-! ### Expressions -/

def wordFrom (p : Position) (text : List Char) : Expr :=
  Sequence.close ⟨p, (letters p text).reverse⟩ (text.foldl Position.after p)

def pluralItem (p : Position) (index : Nat) (text : List Char) : Expr :=
  let inner := opener.foldl Position.after p
  .group ⟨p, (text.foldl Position.after inner).after ')'⟩ (.capture index (some groupName))
    (wordFrom inner text)

def choiceItem (p : Position) (index : Nat) (a b : List Char) : Expr :=
  let inner := p.after '('
  let second := (a.foldl Position.after inner).after '|'
  let stop := (b.foldl Position.after (opener.foldl Position.after second)).after ')'
  .group ⟨p, stop.after ')'⟩ (.capture index none)
    (.alternation ⟨inner, stop⟩ [wordFrom inner a, pluralItem second (index + 1) b])

def optionalItem (p : Position) (index : Nat) (text : List Char) (greedy : Bool) : Expr :=
  let group := pluralItem p index text
  .repetition ⟨p, (optionalMarks greedy).foldl Position.after group.span.stop⟩ 0 (some 1) greedy group

theorem denotes_letters (p : Position) (text : List Char) :
    AllDenote (letters p text) (text.map fun c => .literal [c]) 0 := by
  induction text generalizing p with
  | nil => exact .nil
  | cons c rest ih => exact .cons ⟨rfl, fun _ _ => rfl⟩ (ih _)

theorem denotes_word (p : Position) (text : List Char) :
    (wordFrom p text).Denotes (.word text) 1 := by
  rw [← Form.concat_letters]
  exact denotes_close rfl (denotes_letters p text) _

theorem denotes_plural (p : Position) (index : Nat) (text : List Char) :
    (pluralItem p index text).Denotes (.capture index (some groupName) (.word text)) 2 :=
  denotes_group (denotes_word _ text) _ index _

theorem denotes_choice (p : Position) (index : Nat) (a b : List Char) :
    (choiceItem p index a b).Denotes
      (.capture index none
        (.alternation [.word a, .capture (index + 1) (some groupName) (.word b)])) 4 := by
  have first := (denotes_word (p.after '(') a).mono (Nat.le_succ 1)
  have second := denotes_plural ((a.foldl Position.after (p.after '(')).after '|') (index + 1) b
  exact denotes_group (denotes_alternation (.cons first (.cons second .nil)) _) _ index none

theorem denotes_optional (p : Position) {b : List Char} (filled : b ≠ []) (greedy : Bool) :
    (optionalItem p 1 b greedy).Denotes (.optional b greedy) 3 := by
  have kept : Form.repeated 0 (some 1) greedy (.capture 1 (some groupName) (.word b)) =
      .optional b greedy := by
    simp [Form.repeated, Form.isBlank, Form.word, Form.optional, filled]
  rw [← kept]
  exact denotes_repetition (denotes_plural p 1 b) _ 0 (some 1) greedy

theorem denotes_suffix (p : Position) (index : Nat) :
    (suffixItem p index).Denotes (.mark index groupName false) 2 :=
  denotes_repetition (denotes_group (denotes_empty _) _ index (some groupName)) _ 0 (some 1) false

theorem denotes_led {item : Expr} {form : Form} {levels : Nat} (denotes : item.Denotes form levels)
    (p : Position) (text : List Char) :
    AllDenote (letters p text ++ [item]) ((text.map fun c => .literal [c]) ++ [form]) levels :=
  List.rel_append ((denotes_letters p text).mono (Nat.zero_le levels)) (.cons denotes .nil)

theorem denotes_anchored (p stop : Position) {s b : List Char} (filled : b ≠ []) :
    AllDenote
      (.atom (.assertion (.char p '^') .lineStart) :: letters (p.after '^') s ++
        [optionalItem (s.foldl Position.after (p.after '^')) 1 b false,
          .atom (.assertion (.char stop '$') .lineEnd)])
      (.look .textStart :: (s.map fun c => .literal [c]) ++
        [.optional b false, .look .textEnd]) 3 := by
  have begins := (denotes_assertion (.char p '^') .lineStart).mono (Nat.zero_le 3)
  have ends := (denotes_assertion (.char stop '$') .lineEnd).mono (Nat.zero_le 3)
  have middle := (denotes_letters (p.after '^') s).mono (Nat.zero_le 3)
  exact .cons begins (List.rel_append middle (.cons (denotes_optional _ filled false) (.cons ends .nil)))

end ScriptTypes.Pattern
