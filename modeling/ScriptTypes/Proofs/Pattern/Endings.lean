import ScriptTypes.Proofs.Pattern.Finding

/-!
Words with endings. Of two endings the first one that stands there is taken, even if it is only the
beginning of the other. An optional ending is taken if it comes before going without, and if it comes
after only where the match could not be completed without it.
-/

namespace ScriptTypes.Pattern

open ScriptTypes.Plural
open ScriptTypes.Text
open String (utf8Len)

namespace Form

variable {f : Form} {w : Way} {s a b t text : List Char}

theorem firstMatch_of_best (best : f.best? { cursor := .ofText text } = some w) :
    f.firstMatch? text = some ⟨⟨0, w.cursor.offset⟩, w.groups⟩ := by
  have here : f.matchAt? (.ofText text) = some (⟨⟨0, w.cursor.offset⟩, w.groups⟩, w.cursor) := by
    rw [matchAt_eq, best]
    rfl
  rw [firstMatch?, find?]
  exact congrArg (Option.map (·.1)) (findFrom_of_matchAt here)

theorem best_capture (index : Nat) (name : Option String) (body : Form) (w : Way) :
    (capture index name body).best? w = (body.best? w).map (·.close index w.cursor.offset) := by
  rw [best?, run, Way.head_distinct, List.flatMap_singleton, List.head?_map]
  rfl

def behindWord (s t : List Char) : Cursor := (Cursor.ofText (s ++ t)).past s

theorem rest_behindWord (s t : List Char) : (behindWord s t).rest = t := List.drop_left

theorem offset_behindWord (s t : List Char) : (behindWord s t).offset = utf8Len s := Nat.zero_add _

theorem takeText_behindWord (s : List Char) (begins : b <+: t) :
    Way.takeText? { cursor := behindWord s t } b = some { cursor := (behindWord s t).past b } :=
  Way.takeText_of_prefix rfl ((rest_behindWord s t).symm ▸ begins)

theorem takeText_behindWord_missed (s : List Char) (missed : ¬ b <+: t) :
    Way.takeText? { cursor := behindWord s t } b = none :=
  Way.takeText_of_missed ((rest_behindWord s t).symm ▸ missed)

theorem best_led_start (s t : List Char) (f : Form) :
    (led s f).best? { cursor := .ofText (s ++ t) } = f.best? { cursor := behindWord s t } := by
  rw [best_led rfl, Way.takeText_of_prefix rfl (List.prefix_append s t)]
  rfl

/-! ### Two endings -/

theorem best_choice (s a b t : List Char) :
    (choice s a b).best? { cursor := .ofText (s ++ t) } =
      ((Way.takeText? { cursor := behindWord s t } a).or
        ((Way.takeText? { cursor := behindWord s t } b).map (·.close 2 (utf8Len s)))).map
          (·.close 1 (utf8Len s)) := by
  rw [choice, best_led_start, best_capture, alternation_word, best_alt _ _ rfl, best_word,
    best_capture, best_word, offset_behindWord]

theorem firstMatch_choice_first (s b : List Char) (begins : a <+: t) :
    (choice s a b).firstMatch? (s ++ t) =
      some ⟨⟨0, utf8Len s + utf8Len a⟩, [(1, ⟨utf8Len s, utf8Len s + utf8Len a⟩)]⟩ := by
  have best := best_choice s a b t
  rw [takeText_behindWord s begins] at best
  rw [firstMatch_of_best best]
  simp [Way.close, Cursor.past, offset_behindWord]

theorem firstMatch_choice_second (s : List Char) (missed : ¬ a <+: t)
    (begins : b <+: t) :
    (choice s a b).firstMatch? (s ++ t) =
      some ⟨⟨0, utf8Len s + utf8Len b⟩, [(1, ⟨utf8Len s, utf8Len s + utf8Len b⟩),
        (2, ⟨utf8Len s, utf8Len s + utf8Len b⟩)]⟩ := by
  have best := best_choice s a b t
  rw [takeText_behindWord_missed s missed, takeText_behindWord s begins] at best
  rw [firstMatch_of_best best]
  simp [Way.close, Cursor.past, offset_behindWord]

/-! ### An optional ending -/

theorem run_capture_word (index : Nat) (name : Option String) (b : List Char) (base : Nat) (w : Way) :
    (capture index name (word b)).run base [w] =
      ((w.takeText? b).map (·.close index w.cursor.offset)).toList := by
  rw [run, List.flatMap_singleton, run_word]
  cases taken : w.takeText? b with
  | none => simp [taken, Way.distinct, Way.distinct.keep]
  | some out => simp [taken, Way.distinct, Way.distinct.keep]

theorem run_optional (settled : w.choices = none) (b : List Char) (greedy : Bool) (base : Nat) :
    (optional b greedy).run base [w] =
      Way.distinct
        (if greedy then ((w.takeText? b).map (·.close 1 w.cursor.offset)).toList ++ [w]
          else w :: ((w.takeText? b).map (·.close 1 w.cursor.offset)).toList) := by
  rw [optional, run_optionally _ _ _ settled, run_capture_word]

theorem best_optional (settled : w.choices = none) (b : List Char) (greedy : Bool) :
    (optional b greedy).best? w =
      if greedy then ((w.takeText? b).map (·.close 1 w.cursor.offset)).or (some w) else some w := by
  rw [best?, run_optional settled, Way.head_distinct]
  cases greedy with
  | true => simp
  | false => rfl

theorem best_optional_start (s b t : List Char) (greedy : Bool) :
    (led s (optional b greedy)).best? { cursor := .ofText (s ++ t) } =
      if greedy then
        ((Way.takeText? { cursor := behindWord s t } b).map (·.close 1 (utf8Len s))).or
          (some { cursor := behindWord s t })
      else some { cursor := behindWord s t } := by
  rw [best_led_start, best_optional rfl, offset_behindWord]

theorem firstMatch_greedy_taken (s : List Char) (begins : b <+: t) :
    (led s (optional b true)).firstMatch? (s ++ t) =
      some ⟨⟨0, utf8Len s + utf8Len b⟩, [(1, ⟨utf8Len s, utf8Len s + utf8Len b⟩)]⟩ := by
  have best := best_optional_start s b t true
  rw [takeText_behindWord s begins] at best
  rw [firstMatch_of_best best]
  simp [Way.close, Cursor.past, offset_behindWord]

theorem firstMatch_greedy_missed (s : List Char) (missed : ¬ b <+: t) :
    (led s (optional b true)).firstMatch? (s ++ t) = some ⟨⟨0, utf8Len s⟩, []⟩ := by
  have best := best_optional_start s b t true
  rw [takeText_behindWord_missed s missed] at best
  rw [firstMatch_of_best best, offset_behindWord]

theorem firstMatch_lazy (s b t : List Char) :
    (led s (optional b false)).firstMatch? (s ++ t) = some ⟨⟨0, utf8Len s⟩, []⟩ := by
  rw [firstMatch_of_best (best_optional_start s b t false), offset_behindWord]

/-! ### An optional ending before the end of the text -/

theorem best_anchored (s b t : List Char) :
    (anchored s b).best? { cursor := .ofText (s ++ t) } =
      ((Way.distinct ({ cursor := behindWord s t } ::
        ((Way.takeText? { cursor := behindWord s t } b).map (·.close 1 (utf8Len s))).toList)).filter
          fun w => Look.textEnd.holds w.cursor).head? := by
  -- at the beginning of a text the first part holds and leaves only the word to be taken
  let front : List Form := .look .textStart :: s.map fun c => .literal [c]
  have begun : runAll 0 front [{ cursor := .ofText (s ++ t) }] =
      [{ cursor := behindWord s t }] := by
    change runAll _ (s.map fun c => .literal [c]) [{ cursor := .ofText (s ++ t) }] = _
    rw [run_letters, List.filterMap_cons, Way.takeText_of_prefix rfl (List.prefix_append s t)]
    rfl
  rw [best?, anchored, run_concat, runAll_append, begun, runAll, run_optional rfl,
    offset_behindWord]
  rfl

theorem firstMatch_anchored_taken (s : List Char) (filled : b ≠ []) :
    (anchored s b).firstMatch? (s ++ b) =
      some ⟨⟨0, utf8Len s + utf8Len b⟩, [(1, ⟨utf8Len s, utf8Len s + utf8Len b⟩)]⟩ := by
  have best := best_anchored s b b
  rw [takeText_behindWord s List.prefix_rfl] at best
  rw [firstMatch_of_best (w := Way.close { cursor := (behindWord s b).past b } 1 (utf8Len s))]
  · simp [Way.close, Cursor.past, offset_behindWord]
  · rw [best]
    -- the way without the ending comes first, and is dropped because the text goes on behind it
    simp [Way.distinct, Way.distinct.keep, Way.key, Way.close, Cursor.past, offset_behindWord,
      rest_behindWord, Look.holds, filled]

theorem firstMatch_anchored_missed (s : List Char) (filled : b ≠ []) :
    (anchored s b).firstMatch? s = some ⟨⟨0, utf8Len s⟩, []⟩ := by
  have missed : ¬ b <+: [] := mt List.prefix_nil.1 filled
  have best := best_anchored s b []
  rw [takeText_behindWord_missed s missed, List.append_nil] at best
  rw [firstMatch_of_best (w := { cursor := behindWord s [] }), offset_behindWord]
  rw [best]
  simp [Way.distinct, Way.distinct.keep, Look.holds, rest_behindWord]

end Form

end ScriptTypes.Pattern
