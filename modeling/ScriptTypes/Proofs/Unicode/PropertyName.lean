import ScriptTypes.Unicode.Property

/-!
Properties that no table names. No name has a parenthesis or a control in it, so one of these asks
for nothing; neither does a character that is passed over in names.
-/

namespace ScriptTypes.Unicode

def nameless : List Char := ['(', '\t', '\n', '\x0b', '\x0c', '\r']

variable {d : Char} (strange : d ∈ nameless)
include strange

theorem toLower_nameless {c : Char} (lower : c.toLower = d) : c = d := by
  have low : nameless.all (·.toNat < 65) = true := by decide
  have below : d.toNat < 65 := by simpa using List.all_eq_true.1 low d strange
  unfold Char.toLower at lower
  split at lower
  · rename_i upper
    have first : 65 ≤ c.val.toNat := upper.1
    have last : c.val.toNat ≤ 90 := upper.2
    have raised : (c.val + ('a'.val - 'A'.val)).toNat = d.toNat :=
      congrArg UInt32.toNat (congrArg Char.val lower)
    rw [UInt32.toNat_add] at raised
    have shift : ('a'.val - 'A'.val).toNat = 32 := by decide
    omega
  · exact lower

theorem mem_of_fold {cs : List Char} (member : d ∈ looseName.fold cs) : d ∈ cs := by
  obtain ⟨c, kept, lower⟩ := List.mem_map.1 member
  rw [← toLower_nameless strange lower]
  exact (List.mem_filter.1 kept).1

theorem mem_of_looseName {name : String} (member : d ∈ (looseName name).toList) :
    d ∈ name.toList := by
  have apart : nameless.all (· ∉ "isc".toList) = true := by decide
  have no_isc : d ∉ "isc".toList := of_decide_eq_true (List.all_eq_true.1 apart d strange)
  unfold looseName at member
  split at member
  · rename_i i s rest listed
    rw [listed]
    split at member
    · dsimp only at member
      split at member
      · exact absurd member no_isc
      · rw [String.toList_ofList] at member
        exact List.mem_cons_of_mem _ (List.mem_cons_of_mem _ (mem_of_fold strange member))
    · rw [String.toList_ofList] at member
      exact mem_of_fold strange member
  · rw [String.toList_ofList] at member
    exact mem_of_fold strange member

omit strange in
theorem mem_of_divide {word cs : List Char} {part : String} {c : Char}
    (found : part ∈ words.divide word cs) (member : c ∈ part.toList) : c ∈ word ∨ c ∈ cs := by
  fun_induction words.divide word cs with
  | case1 word =>
      rw [List.mem_singleton.1 found, String.toList_ofList, List.mem_reverse] at member
      exact .inl member
  | case2 word rest ih =>
      rcases List.mem_cons.1 found with rfl | later
      · rw [String.toList_ofList, List.mem_reverse] at member
        exact .inl member
      · rcases ih later with absurd | inside
        · cases absurd
        · exact .inr (List.mem_cons_of_mem _ inside)
  | case3 word d rest blank ih =>
      rcases ih found with inside | inside
      · rcases List.mem_cons.1 inside with rfl | inside
        · exact .inr List.mem_cons_self
        · exact .inl inside
      · exact .inr (List.mem_cons_of_mem _ inside)

theorem byte_of_mem {cs : List Char} (member : d ∈ cs) :
    d.toUInt8 ∈ cs.utf8Encode.data.toList := by
  induction cs with
  | nil => cases member
  | cons c cs ih =>
      rw [List.utf8Encode_cons, ByteArray.data_append, Array.toList_append, List.mem_append]
      rcases List.mem_cons.1 member with rfl | later
      · have single : nameless.all (fun d => d.toUInt8 ∈ ([d].utf8Encode).data.toList) = true := by
          decide +kernel
        exact .inl (of_decide_eq_true (List.all_eq_true.1 single d strange))
      · exact .inr (ih later)

omit strange

def isClean (text : String) : Bool :=
  text.toByteArray.data.toList.all fun byte => !(nameless.map Char.toUInt8).contains byte

def areClean (names : List (String × String)) : Bool :=
  names.all fun n => isClean n.1 && isClean n.2

include strange

theorem not_mem_of_clean {text : String} (clean : isClean text = true) : d ∉ text.toList := by
  intro member
  have byte := byte_of_mem strange member
  rw [← String.toByteArray_ofList, String.ofList_toList] at byte
  have absent := List.all_eq_true.1 clean _ byte
  rw [List.contains_iff_mem.2 (List.mem_map_of_mem strange)] at absent
  cases absent

theorem fullName_nameless {names : List (String × String)} (clean : areClean names = true)
    {key : String} (inside : d ∈ key.toList) : fullName? names key = none := by
  have missing : names.find? (fun n => looseName n.1 = key || (words n.2).contains key) = none := by
    rw [List.find?_eq_none]
    intro n member
    have absent := List.all_eq_true.1 clean n member
    rw [Bool.and_eq_true] at absent
    simp only [Bool.or_eq_true, decide_eq_true_eq, List.contains_iff_mem, not_or]
    refine ⟨fun loose => ?_, fun part => ?_⟩
    · rw [← loose] at inside
      exact not_mem_of_clean strange absent.1 (mem_of_looseName strange inside)
    · rcases mem_of_divide part inside with absurd | inside
      · cases absurd
      · exact not_mem_of_clean strange absent.2 inside
  rw [fullName?, missing]
  split <;> rfl

theorem mem_fold {cs : List Char} (member : d ∈ cs) : d ∈ looseName.fold cs := by
  have kept : nameless.all (fun d => d.toNat < 0x80 && d ≠ ' ' && d ≠ '_' && d ≠ '-') = true := by
    decide
  have lower : nameless.all (fun d => d.toLower = d) = true := by decide
  refine List.mem_map.2 ⟨d, List.mem_filter.2 ⟨member, List.all_eq_true.1 kept d strange⟩, ?_⟩
  exact of_decide_eq_true (List.all_eq_true.1 lower d strange)

theorem mem_looseName {name : String} (member : d ∈ name.toList) :
    d ∈ (looseName name).toList := by
  have apart : nameless.all (· ∉ ['i', 'I', 's', 'S', 'c']) = true := by decide
  have no_letter : d ∉ ['i', 'I', 's', 'S', 'c'] :=
    of_decide_eq_true (List.all_eq_true.1 apart d strange)
  simp only [List.mem_cons, List.not_mem_nil, or_false, not_or] at no_letter
  unfold looseName
  split
  · rename_i i s rest listed
    rw [listed] at member
    split
    · rename_i begins
      simp only [Bool.and_eq_true, Bool.or_eq_true, decide_eq_true_eq] at begins
      -- a leading "is" is dropped, and the character is neither of its letters
      have later : d ∈ rest := by
        rcases List.mem_cons.1 member with rfl | member
        · exact absurd begins.1 (by simp [no_letter])
        rcases List.mem_cons.1 member with rfl | member
        · exact absurd begins.2 (by simp [no_letter])
        · exact member
      have folded := mem_fold strange later
      dsimp only
      split
      · rename_i single
        rw [single, List.mem_singleton] at folded
        exact absurd folded (by simp [no_letter])
      · rw [String.toList_ofList]
        exact folded
    · rw [String.toList_ofList]
      exact mem_fold strange member
  · rw [String.toList_ofList]
    exact mem_fold strange member

theorem not_special {key : String} (inside : d ∈ key.toList) :
    key ≠ "any" ∧ key ≠ "ascii" ∧ key ≠ "assigned" := by
  have apart : nameless.all (fun d =>
      d ∉ "any".toList ∧ d ∉ "ascii".toList ∧ d ∉ "assigned".toList) = true := by decide +kernel
  obtain ⟨no_any, no_ascii, no_assigned⟩ := of_decide_eq_true (List.all_eq_true.1 apart d strange)
  refine ⟨?_, ?_, ?_⟩
  · rintro rfl
    exact no_any inside
  · rintro rfl
    exact no_ascii inside
  · rintro rfl
    exact no_assigned inside

omit strange

theorem clean_propertyNames : areClean propertyNames = true := by decide +kernel

theorem clean_categoryNames : areClean categoryNames = true := by decide +kernel

theorem clean_scriptNames : areClean scriptNames = true := by decide +kernel

theorem clean_ageNames : areClean ageNames = true := by decide +kernel

theorem clean_clusterNames : areClean clusterNames = true := by decide +kernel

theorem clean_wordRoleNames : areClean wordRoleNames = true := by decide +kernel

theorem clean_sentenceNames : areClean sentenceNames = true := by decide +kernel

theorem setByName_of_unlisted {name : String}
    (property : fullName? propertyNames (looseName name) = none)
    (category : fullName? categoryNames (looseName name) = none)
    (script : fullName? scriptNames (looseName name) = none)
    (apart : looseName name ≠ "any" ∧ looseName name ≠ "ascii" ∧ looseName name ≠ "assigned") :
    setByName name = .error .noProperty := by
  obtain ⟨no_any, no_ascii, no_assigned⟩ := apart
  simp [setByName, isCategoryName, property, category, script, no_any, no_ascii, no_assigned]

/-- No property is called by a name with one of these characters in it. -/
theorem setByName_nameless {name : String} (strange : d ∈ nameless) (inside : d ∈ name.toList) :
    setByName name = .error .noProperty :=
  have loose := mem_looseName strange inside
  setByName_of_unlisted (fullName_nameless strange clean_propertyNames loose)
    (fullName_nameless strange clean_categoryNames loose)
    (fullName_nameless strange clean_scriptNames loose) (not_special strange loose)

theorem set_letter_nameless (strange : d ∈ nameless) :
    PropertyQuery.set (.letter d) = .error .noProperty :=
  setByName_nameless strange (by simp)

theorem setByValue_nameless {property value : String} (strange : d ∈ nameless)
    (inside : d ∈ property.toList ∨ d ∈ value.toList) :
    ∃ failure, setByValue property value = .error failure := by
  rcases inside with inside | inside
  · have unlisted :=
      fullName_nameless strange clean_propertyNames (mem_looseName strange inside)
    exact ⟨.noProperty, by rw [setByValue, unlisted]⟩
  · have loose := mem_looseName strange inside
    have missing {names table : List (String × String)} (clean : areClean names = true) :
        valueSet names table (looseName value) = .error .noValue := by
      rw [valueSet, fullName_nameless strange clean loose]
      rfl
    obtain ⟨no_any, no_ascii, no_assigned⟩ := not_special strange loose
    unfold setByValue
    split
    · exact ⟨_, rfl⟩
    · refine ⟨.noValue, ?_⟩
      simp [categoryByName, no_any, no_ascii, no_assigned,
        fullName_nameless strange clean_categoryNames loose]
    · exact ⟨_, missing clean_scriptNames⟩
    · exact ⟨_, missing clean_scriptNames⟩
    · exact ⟨.noValue, by rw [ageSet, fullName_nameless strange clean_ageNames loose]⟩
    · exact ⟨_, missing clean_clusterNames⟩
    · exact ⟨_, missing clean_wordRoleNames⟩
    · exact ⟨_, missing clean_sentenceNames⟩
    · exact ⟨_, rfl⟩

theorem set_letter_of_loose {c : Char} (empty : looseName c.toString = "") :
    PropertyQuery.set (.letter c) = .error .noProperty := by
  refine setByName_of_unlisted ?_ ?_ ?_ ?_
  · rw [empty]
    rfl
  · rw [empty]
    rfl
  · rw [empty]
    rfl
  · rw [empty]
    exact ⟨by decide, by decide, by decide⟩

end ScriptTypes.Unicode
