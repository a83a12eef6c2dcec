import Mathlib.Algebra.Order.BigOperators.Group.List
import Mathlib.Algebra.Order.Ring.Nat
import ScriptTypes.Pattern.Weight

/-!
The quick bound on the weight of a form. It is never below what the automata weigh, so whether a
pattern is refused as too large depends on the automata alone.
-/

namespace ScriptTypes.Pattern

open ScriptTypes.Unicode (CharSet)

theorem total_eq_sum (weights : List Nat) : total weights = weights.sum := rfl

/-! ### Sums -/

theorem sum_map_const {α : Type} (constant : Nat) (l : List α) :
    (l.map fun _ => constant).sum = constant * l.length := by
  rw [List.map_const', List.sum_replicate_nat, Nat.mul_comm]

theorem sum_add_map {α : Type} (constant : Nat) (cost : α → Nat) (l : List α) :
    (l.map fun a => constant + cost a).sum = constant * l.length + (l.map cost).sum := by
  rw [List.sum_map_add, sum_map_const]

theorem sum_map_flatMap {α β : Type} (cost : α → Nat) (pieces : β → List α) (l : List β) :
    ((l.flatMap pieces).map cost).sum = (l.map fun b => ((pieces b).map cost).sum).sum := by
  rw [List.map_flatMap, List.flatMap, List.sum_flatten, List.map_map]
  rfl

/-! ### Sharing -/

def stepCost {α : Type} (step : Nat) (follow : List α → Nat) : List α → Nat
  | [] => 0
  | _ :: tail => step + follow tail

section Sharing

variable (step : Nat)

theorem sum_gather_le (follow : ByteRanges → Nat) (sequences : List ByteRanges) :
    ((gather sequences).map fun g => step + (g.2.map follow).sum).sum ≤
      (sequences.map (stepCost step follow)).sum := by
  fun_induction gather sequences with
  | case1 => exact Nat.le_refl 0
  | case2 rest ih => simpa [stepCost] using ih
  | case3 tail rest b tails groups gathered ih =>
      simp only [gathered, List.map_cons, List.sum_cons, stepCost] at ih ⊢
      omega
  | case4 b tail rest b' tails groups gathered apart ih =>
      simp only [gathered, List.map_cons, List.sum_cons, List.map_nil, List.sum_nil, stepCost] at ih ⊢
      omega
  | case5 b tail rest gathered ih =>
      simp [stepCost]

theorem sum_addTail_le (follow : List UInt8 → Nat) (b : UInt8) (tail : List UInt8)
    (fans : List (UInt8 × List (List UInt8))) :
    ((addTail b tail fans).map fun fan => step + (fan.2.map follow).sum).sum ≤
      step + follow tail + (fans.map fun fan => step + (fan.2.map follow).sum).sum := by
  fun_induction addTail b tail fans with
  | case1 => simp
  | case2 tails rest =>
      simp only [List.map_cons, List.sum_cons]
      omega
  | case3 c tails rest apart ih =>
      simp only [List.map_cons, List.sum_cons] at ih ⊢
      omega

theorem sum_fans_le (follow : List UInt8 → Nat) (texts : List (List UInt8)) :
    ((fans texts).map fun fan => step + (fan.2.map follow).sum).sum ≤
      (texts.map (stepCost step follow)).sum := by
  fun_induction fans texts with
  | case1 => exact Nat.le_refl 0
  | case2 rest ih => simpa [stepCost] using ih
  | case3 b tail rest ih =>
      have added := sum_addTail_le step follow b tail (fans rest)
      simp only [List.map_cons, List.sum_cons, stepCost]
      omega

end Sharing

/-! ### Texts -/

def byteCost : Nat := choiceWeight + 2 * stateWeight + transitionWeight

def textCost (text : List UInt8) : Nat := choiceWeight + byteCost * text.length

theorem stepCost_text_le (text : List UInt8) : stepCost byteCost textCost text ≤ textCost text := by
  cases text with
  | nil => exact Nat.zero_le _
  | cons b tail =>
      rw [stepCost, textCost, textCost, List.length_cons, Nat.mul_succ]
      omega

theorem sectionWeight_le {follow : List (List UInt8) → Nat}
    (bounded : ∀ texts, follow texts ≤ stateWeight + (texts.map textCost).sum)
    (texts : List (List UInt8)) :
    sectionWeight follow texts ≤ (texts.map textCost).sum := by
  have gathered := sum_fans_le byteCost textCost texts
  have apart : (texts.map (stepCost byteCost textCost)).sum ≤ (texts.map textCost).sum :=
    List.sum_le_sum fun text _ => stepCost_text_le text
  have followed : ((fans texts).map fun fan => follow fan.2).sum ≤
      ((fans texts).map fun fan => stateWeight + (fan.2.map textCost).sum).sum :=
    List.sum_le_sum fun fan _ => bounded fan.2
  rw [sum_add_map] at gathered followed
  unfold sectionWeight
  cases spelled : fans texts with
  | nil => exact Nat.zero_le _
  | cons fan rest =>
      rw [spelled] at gathered followed
      cases rest with
      | nil =>
          simp only [List.length_cons, List.length_nil, List.map_cons, List.map_nil, List.sum_cons,
            List.sum_nil, byteCost] at *
          omega
      | cons next rest =>
          simp only [total_eq_sum, List.length_cons, byteCost, choiceWeight, stateWeight,
            transitionWeight] at *
          omega

theorem sum_sections (texts : List (List UInt8)) :
    ((sections texts).map fun part => (part.map textCost).sum).sum +
        choiceWeight * ((sections texts).length - 1) = (texts.map textCost).sum ∧
      sections texts ≠ [] := by
  fun_induction sections texts with
  | case1 => exact ⟨rfl, List.cons_ne_nil _ _⟩
  | case2 rest ih =>
      refine ⟨?_, List.cons_ne_nil _ _⟩
      have positive := List.length_pos_iff.2 ih.2
      simp only [List.map_cons, List.map_nil, List.sum_cons, List.sum_nil, List.length_cons, textCost,
        List.length_nil] at ih ⊢
      simp only [choiceWeight] at *
      omega
  | case3 text rest filled first more divided ih =>
      refine ⟨?_, List.cons_ne_nil _ _⟩
      simp only [divided, List.map_cons, List.sum_cons, List.length_cons] at ih ⊢
      omega
  | case4 text rest filled divided ih => exact absurd divided ih.2

theorem endedOnce_sublist (texts : List (List UInt8)) : (endedOnce texts).Sublist texts := by
  unfold endedOnce
  split
  · exact (List.dropWhile_sublist _).cons_cons _
  · exact .refl _

theorem treeWeight_le (fuel : Nat) (texts : List (List UInt8)) :
    treeWeight fuel texts ≤ stateWeight + (texts.map textCost).sum := by
  induction fuel generalizing texts with
  | zero => exact Nat.zero_le _
  | succ fuel ih =>
      rw [treeWeight]
      split
      · exact Nat.zero_le _
      · have parts := (sum_sections (endedOnce texts)).1
        have fewer : ((endedOnce texts).map textCost).sum ≤ (texts.map textCost).sum :=
          ((endedOnce_sublist texts).map textCost).sum_le_sum (fun _ _ => Nat.zero_le _)
        have each : ((sections (endedOnce texts)).map (sectionWeight (treeWeight fuel))).sum ≤
            ((sections (endedOnce texts)).map fun part => (part.map textCost).sum).sum :=
          List.sum_le_sum fun part _ => sectionWeight_le ih part
        simp only [total_eq_sum]
        omega

theorem textsWeight_le (texts : List (List UInt8)) : textsWeight texts ≤ roughTextsWeight texts := by
  have bounded := treeWeight_le (texts.foldl (fun n text => max n text.length) 0) texts
  change stateWeight + _ ≤ 2 * stateWeight + (texts.map textCost).sum
  omega

theorem roughTextsWeight_reverse (texts : List (List UInt8)) :
    roughTextsWeight (texts.map List.reverse) = roughTextsWeight texts := by
  rw [roughTextsWeight, roughTextsWeight, List.map_map]
  simp only [Function.comp_def, List.length_reverse]

/-! ### Sets -/

def intervalCost : Nat := stateWeight + transitionWeight

def sequenceCost (s : ByteRanges) : Nat := intervalCost * s.length

def readerCost (sequences : List ByteRanges) : Nat :=
  stateWeight + transitionWeight * (gather sequences).length

theorem stepCost_sequence (s : ByteRanges) :
    stepCost intervalCost sequenceCost s = sequenceCost s := by
  cases s with
  | nil => rfl
  | cons b tail =>
      rw [stepCost, sequenceCost, sequenceCost, List.length_cons, Nat.mul_succ, Nat.add_comm]

theorem sum_withoutRepeats_le (cost : List ByteRanges → Nat) (states : List (List ByteRanges)) :
    ((withoutRepeats states).map cost).sum ≤ (states.map cost).sum := by
  have kept (seen : List (List ByteRanges)) :
      ((states.foldl (fun kept s => if kept.contains s then kept else s :: kept) seen).map cost).sum ≤
        (seen.map cost).sum + (states.map cost).sum := by
    induction states generalizing seen with
    | nil => exact Nat.le_refl _
    | cons s rest ih =>
        rw [List.foldl_cons, List.map_cons, List.sum_cons]
        split
        · have later := ih seen
          omega
        · have later := ih (s :: seen)
          rw [List.map_cons, List.sum_cons] at later
          omega
  have bounded := kept []
  rw [List.map_nil, List.sum_nil, Nat.zero_add] at bounded
  exact bounded

/-- The states that read a set cost no more than its sequences do apart. -/
theorem sum_readers_le (fuel : Nat) (sequences : List ByteRanges) :
    ((readers fuel sequences).map readerCost).sum ≤ (sequences.map sequenceCost).sum := by
  induction fuel generalizing sequences with
  | zero => exact Nat.zero_le _
  | succ fuel ih =>
      have gathered := sum_gather_le intervalCost sequenceCost sequences
      rw [List.map_congr_left fun s _ => stepCost_sequence s, sum_add_map] at gathered
      refine Nat.le_trans ?_ gathered
      rw [readers]
      split
      · exact Nat.zero_le _
      · rename_i filled
        have several : 1 ≤ (gather sequences).length := List.length_pos_iff.2 filled
        have each : ((gather sequences).map fun g => ((readers fuel g.2).map readerCost).sum).sum ≤
            ((gather sequences).map fun g => (g.2.map sequenceCost).sum).sum :=
          List.sum_le_sum fun g _ => ih g.2
        rw [List.map_cons, List.sum_cons, sum_map_flatMap]
        simp only [readerCost, intervalCost, stateWeight, transitionWeight] at *
        omega

theorem roughSetWeight_eq (set : CharSet) :
    roughSetWeight set = 2 * stateWeight + (choiceWeight * (encodings set).length +
      ((encodings set).map sequenceCost).sum) := by
  rw [roughSetWeight, total_eq_sum, sum_add_map]
  rfl

theorem forwardSetWeight_le (set : CharSet) : forwardSetWeight set ≤ roughSetWeight set := by
  have shared := sum_withoutRepeats_le readerCost (readers 5 (encodings set))
  have read := sum_readers_le 5 (encodings set)
  rw [roughSetWeight_eq]
  change stateWeight + ((withoutRepeats (readers 5 (encodings set))).map readerCost).sum ≤ _
  omega

theorem backwardSetWeight_le (set : CharSet) : backwardSetWeight set ≤ roughSetWeight set := by
  let begun := (encodings set).flatMap fun s => (List.range s.length).map fun n => [s.take (n + 1)]
  have shared := sum_withoutRepeats_le (fun _ => stateWeight) begun
  have states : (begun.map fun _ => stateWeight).sum =
      ((encodings set).map fun s => stateWeight * s.length).sum := by
    rw [sum_map_flatMap]
    refine congrArg List.sum (List.map_congr_left fun s _ => ?_)
    rw [sum_map_const, List.length_map, List.length_range]
  have fewer : ((encodings set).map fun s => stateWeight * s.length).sum ≤
      ((encodings set).map sequenceCost).sum :=
    List.sum_le_sum fun s _ => Nat.mul_le_mul_right s.length (Nat.le_add_right _ _)
  rw [sum_map_const, states] at shared
  rw [roughSetWeight_eq]
  change 2 * stateWeight + choiceWeight * (encodings set).length +
    stateWeight * (withoutRepeats begun).length ≤ _
  omega

/-! ### Forms -/

structure Reading.Bounds (bound reading : Reading) : Prop where
  set : ∀ set, reading.set set ≤ bound.set set
  texts : ∀ texts, reading.texts texts ≤ bound.texts texts
  capture : reading.capture ≤ bound.capture
  anchored : ∀ f, bound.anchored f = true → reading.anchored f = true

theorem Reading.rough_bounds_forward : Reading.Bounds .rough .forward where
  set := forwardSetWeight_le
  texts := textsWeight_le
  capture := Nat.le_refl _
  anchored := fun _ never => by cases never

theorem Reading.rough_bounds_backward : Reading.Bounds .rough .backward where
  set := backwardSetWeight_le
  texts := by
    intro texts
    have bounded := textsWeight_le (texts.map List.reverse)
    rwa [roughTextsWeight_reverse] at bounded
  capture := Nat.zero_le _
  anchored := fun _ never => by cases never

namespace Form

variable {bound reading : Reading} (bounds : bound.Bounds reading)

include bounds

theorem weight_le (later : Bool) (f : Form) : f.weight reading later ≤ f.weight bound later := by
  induction f generalizing later with
  | empty => exact Nat.le_refl _
  | literal text => exact Nat.le_refl _
  | chars alphabet set =>
      simp only [weight, setWeight]
      split
      · exact Nat.le_refl _
      · exact bounds.set set
  | look kind => exact Nat.le_refl _
  | repetition low high greedy body ih =>
      have copy := ih false
      have copies (n : Nat) : n * body.weight reading false ≤ n * body.weight bound false :=
        Nat.mul_le_mul_left n copy
      have turns (n : Nat) : n * (body.weight reading false + forkWeight) ≤
          n * (body.weight bound false + forkWeight) :=
        Nat.mul_le_mul_left n (Nat.add_le_add_right copy _)
      -- each kind of count copies the body a number of times that no reading changes
      cases high with
      | none =>
          cases low with
          | zero =>
              simp only [weight]
              split <;> omega
          | succ low => exact Nat.add_le_add_right (copies _) _
      | some high =>
          have copies_le := copies low
          have spare_le := turns (high - low)
          simp only [weight]
          split
          · omega
          · split <;> omega
  | capture index name body ih => exact Nat.add_le_add (ih false) bounds.capture
  | seq first rest ih_first ih_rest => exact Nat.add_le_add (ih_first false) (ih_rest false)
  | alt first rest ih_first ih_rest =>
      simp only [weight]
      split
      · exact bounds.texts _
      · have first_le := ih_first false
        have rest_le := ih_rest true
        omega

theorem frameWeight_le (f : Form) : frameWeight reading f ≤ frameWeight bound f := by
  have captured := bounds.capture
  have anchored := bounds.anchored f
  simp only [frameWeight]
  cases held : bound.anchored f with
  | true =>
      rw [anchored held]
      exact Nat.add_le_add_right (Nat.add_le_add_left captured _) _
  | false =>
      rw [if_neg Bool.false_ne_true]
      split <;> omega

end Form

/-- A form is small enough exactly if the automaton that reads forward and the one that reads
backward are: the quick bound decides nothing by itself. -/
theorem Form.fits_iff (f : Form) :
    f.fits = true ↔
      f.weight .forward false + frameWeight .forward f ≤ weightLimit ∧
        f.weight .backward false + frameWeight .backward f ≤ weightLimit := by
  have forward := Nat.add_le_add (weight_le Reading.rough_bounds_forward false f)
    (frameWeight_le Reading.rough_bounds_forward f)
  have backward := Nat.add_le_add (weight_le Reading.rough_bounds_backward false f)
    (frameWeight_le Reading.rough_bounds_backward f)
  simp only [fits, Bool.or_eq_true, Bool.and_eq_true, decide_eq_true_eq]
  omega

end ScriptTypes.Pattern
