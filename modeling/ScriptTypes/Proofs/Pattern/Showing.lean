import ScriptTypes.Proofs.Pattern.Listing
import ScriptTypes.Proofs.Pattern.Searching

namespace ScriptTypes.Pattern

/-- A list of answers by index that begins as another does, has a gap, and then one answer more. -/
theorem map_range_gap {α : Type} {answer : Nat → Option α} (own : Nat → Option α)
    {front missing : Nat} (kept : ∀ n < front, answer n = own n)
    (absent : ∀ n, front ≤ n → n < front + missing → answer n = none) :
    (List.range (front + missing + 1)).map answer =
      (List.range front).map own ++ List.replicate missing none ++ [answer (front + missing)] := by
  have first : (List.range front).map answer = (List.range front).map own :=
    List.map_congr_left fun n member => kept n (List.mem_range.1 member)
  have gap : ((List.range missing).map (front + ·)).map answer = List.replicate missing none := by
    rw [List.map_map, List.eq_replicate_iff]
    refine ⟨by simp, fun found member => ?_⟩
    obtain ⟨n, inside, rfl⟩ := List.mem_map.1 member
    have below := List.mem_range.1 inside
    exact absent (front + n) (Nat.le_add_right _ _) (by omega)
  rw [List.range_succ, List.map_append, List.range_add, List.map_append, first, gap,
    List.map_singleton]

theorem listed_concat {groups : List Group} {index : Nat} {name : Option String}
    (behind : ∀ g ∈ groups, g.1 < index) (positive : 0 < index) :
    listed (groups ++ [(index, name)]) =
      listed groups ++ List.replicate (index - (listed groups).length) none ++ [name] := by
  have below : lastIndex groups ≤ index - 1 :=
    (lastIndex_le_iff groups _).2 fun g member => Nat.le_pred_of_lt (behind g member)
  obtain ⟨gap, count⟩ := Nat.exists_eq_add_of_le below
  obtain rfl : index = lastIndex groups + gap + 1 := by omega
  have last : lastIndex (groups ++ [(lastIndex groups + gap + 1, name)]) =
      lastIndex groups + gap + 1 := by
    rw [lastIndex, List.foldl_append]
    change max (lastIndex groups) _ = _
    omega
  have length : (listed groups).length = lastIndex groups + 1 := by simp [listed]
  have width : lastIndex groups + gap + 1 - (listed groups).length = gap := by omega
  have absent (n : Nat) (above : lastIndex groups ≤ n) : groups.lookup (n + 1) = none := by
    rw [List.lookup_eq_none_iff]
    intro g member
    have below := le_lastIndex member
    rw [bne_iff_ne]
    omega
  have earlier (n : Nat) (before : n < lastIndex groups + gap) :
      (groups ++ [(lastIndex groups + gap + 1, name)]).lookup (n + 1) = groups.lookup (n + 1) := by
    have apart : (n + 1 == lastIndex groups + gap + 1) = false := by
      rw [beq_eq_false_iff_ne]
      omega
    rw [List.lookup_append, List.lookup_cons, apart]
    simp
  have final :
      (groups ++ [(lastIndex groups + gap + 1, name)]).lookup (lastIndex groups + gap + 1) =
        some name := by
    rw [List.lookup_append, absent _ (Nat.le_add_right _ _)]
    simp
  rw [width, listed, listed, last,
    map_range_gap fun n => (groups.lookup (n + 1)).join, final]
  · rfl
  · exact fun n front => by rw [earlier n (by omega)]
  · exact fun n above front => by rw [earlier n front, absent n above]; rfl

namespace Matcher

namespace Captures

def whole? (c : Captures) : Option Extent := c.groups.head?.join

def withGroups (c : Captures) (missing : Nat) (named : Option Extent) : Captures where
  groups := c.groups ++ List.replicate missing none ++ [named]
  named := named
  all := c.all

/-- What is shown begins where it did, and the group with a name takes nothing, at the end. -/
structure Extends (own shown : Captures) : Prop where
  start : shown.whole?.map (·.start) = own.whole?.map (·.start)
  named : ∀ e, shown.named = some e →
    ∃ whole, shown.whole? = some whole ∧ e = ⟨whole.stop, whole.stop⟩

end Captures

variable {alone extended : Matcher} {name : String} {missing : Nat}
  (names : extended.groupNames = alone.groupNames ++ List.replicate missing none ++ [some name])

theorem groupNames_length (m : Matcher) : m.groupNames.length = lastIndex m.form.captures + 1 := by
  simp [groupNames_eq, listed]

theorem groupNames_positive (m : Matcher) : 0 < m.groupNames.length := by
  rw [groupNames_length]
  exact Nat.succ_pos _

theorem head_groups (m : Match) {count : Nat} (positive : 0 < count) :
    ((List.range count).map m.group?).head?.join = some m.extent := by
  obtain ⟨n, rfl⟩ := Nat.exists_eq_succ_of_ne_zero (Nat.ne_of_gt positive)
  rw [List.range_succ_eq_map]
  rfl

theorem fresh_index (m : Matcher) {index : Nat} (behind : m.groupNames.length ≤ index) :
    index ∉ m.form.indices := by
  intro member
  obtain ⟨g, captured, rfl⟩ := List.mem_map.1 member
  have below := le_lastIndex captured
  rw [groupNames_length] at behind
  omega

theorem group_behind {own : Matcher} {text : List Char} {m : Match}
    (matched : own.form.firstMatch? text = some m) {index : Nat}
    (behind : own.groupNames.length ≤ index) : m.group? index = none := by
  have listed := groupNames_positive own
  have positive : index ≠ 0 := by omega
  rw [Match.group?, if_neg positive]
  exact Form.firstMatch_absent (fresh_index own behind) matched

include names

theorem groupIndex_last (absent : some name ∉ alone.groupNames) :
    extended.groupIndex? name = some (alone.groupNames.length + missing) := by
  have front : ∀ g ∈ (alone.groupNames ++ List.replicate missing none).zipIdx,
      ¬ (decide (g.1 = some name)) = true := by
    rintro ⟨given, n⟩ member same
    obtain rfl : given = some name := by simpa using same
    have inside := List.fst_mem_of_mem_zipIdx member
    rcases List.mem_append.1 inside with own | filler
    · exact absent own
    · cases (List.mem_replicate.1 filler).2
  rw [groupIndex?, names, List.zipIdx_append, List.find?_append, List.find?_eq_none.2 front]
  simp

theorem captures_named (absent : some name ∉ alone.groupNames) (text : String) :
    extended.captures? name text = (extended.form.firstMatch? text.toList).map fun m =>
      { groups := (List.range (alone.groupNames.length + missing + 1)).map m.group?
        named := m.group? (alone.groupNames.length + missing)
        all := (extended.form.allMatches text.toList).map (·.extent) } := by
  have length : extended.groupNames.length = alone.groupNames.length + missing + 1 := by
    rw [names, List.length_append, List.length_append, List.length_replicate]
    rfl
  rw [captures?, groupIndex_last names absent, length]
  rfl

/-- What is shown begins where it did, and the last group takes nothing and stands at the end. -/
theorem captures_extends (absent : some name ∉ alone.groupNames)
    (extends_form : Form.Extends (alone.groupNames.length + missing) alone.form extended.form)
    (text : String) :
    Option.Rel Captures.Extends (alone.captures? name text) (extended.captures? name text) := by
  rw [captures_named names absent, captures?]
  have starts := Form.firstMatch_extends extends_form text.toList
  cases own : alone.form.firstMatch? text.toList <;>
    cases found : extended.form.firstMatch? text.toList <;> rw [own, found] at starts
  · exact .none
  · cases starts
  · cases starts
  · rename_i m out
    cases starts with
    | some same =>
        have listed := groupNames_positive alone
        refine .some ⟨?_, fun e named => ⟨out.extent, head_groups out (Nat.succ_pos _), ?_⟩⟩
        · simp only [Captures.whole?, head_groups m listed, head_groups out (Nat.succ_pos _)]
          exact congrArg some same
        · have positive : alone.groupNames.length + missing ≠ 0 := by omega
          simp only [Match.group?, if_neg positive] at named
          rcases Form.firstMatch_ends extends_form found with none_there | ending
          · rw [none_there] at named
            cases named
          · rw [ending] at named
            exact (Option.some.inj named).symm

theorem captures_agree (absent : some name ∉ alone.groupNames)
    (agree : Form.Agree (alone.groupNames.length + missing) alone.form extended.form)
    (text : String) :
    Option.Rel (fun own shown => ∃ named, shown = own.withGroups missing named)
      (alone.captures? name text) (extended.captures? name text) := by
  rw [captures_named names absent, captures?]
  have matched := Form.firstMatch_agree agree text.toList
  cases own : alone.form.firstMatch? text.toList <;>
    cases found : extended.form.firstMatch? text.toList <;> rw [own, found] at matched
  · exact .none
  · cases matched
  · cases matched
  · rename_i m out
    cases matched with
    | some marked =>
        refine .some ⟨out.group? (alone.groupNames.length + missing), ?_⟩
        have groups : (List.range (alone.groupNames.length + missing + 1)).map out.group? =
            (List.range alone.groupNames.length).map m.group? ++ List.replicate missing none ++
              [out.group? (alone.groupNames.length + missing)] := by
          refine map_range_gap m.group? (fun index front => marked.group (by omega)) ?_
          intro index behind front
          rw [marked.group (by omega), group_behind own behind]
        simp only [Captures.withGroups, groups, Form.allMatches_agree agree]

end Matcher

end ScriptTypes.Pattern
