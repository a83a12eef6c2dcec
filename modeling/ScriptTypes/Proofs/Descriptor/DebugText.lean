import ScriptTypes.Descriptor
import ScriptTypes.Proofs.Text.Quoting

namespace ScriptTypes

open ScriptTypes.Text

theorem comma_notMem_name (c : ValueClass) : ',' ∉ c.name.toList := by
  cases c with
  | ofType t =>
      cases t with
      | int t => cases t <;> decide
      | _ => decide
  | _ => decide

namespace Descriptor

variable {t u : ValueType}

def debugEnd (hasReader : Bool) : List Char :=
  (", literal_parser: " ++ (if hasReader then "true" else "false") ++ ", .. \x7d").toList

theorem debugEnd_inj {a b : Bool} : debugEnd a = debugEnd b ↔ a = b := by
  revert a b
  decide

theorem toList_debugText (d : Descriptor t) :
    (d.debugText false).toList =
      "TypeDescriptor \x7b value_class: ValueClass(".toList ++
        ((d.valueClass.name.toList ++ [')']) ++ ',' :: (" base_name: ".toList ++
          ((quoted d.baseName).toList ++ (", pattern: ".toList ++
            ((quoted d.source).toList ++ debugEnd d.reader.isSome))))) := by
  have fields : d.debugText false =
      "TypeDescriptor" ++ " \x7b " ++ ("value_class: " ++ d.valueClass.debugText ++ ", " ++
        ("base_name: " ++ quoted d.baseName) ++ ", " ++ ("pattern: " ++ quoted d.source) ++ ", " ++
        ("literal_parser: " ++ if d.reader.isSome then "true" else "false") ++ ", " ++ "..") ++
        " \x7d" := rfl
  simp [fields, ValueClass.debugText, debugEnd]

/-- The debugging text on one line tells descriptors apart by the name of the class, the name, the
source and whether they read literals, and by nothing else. What they render with does not show. -/
theorem debugText_tells_fields (d : Descriptor t) (e : Descriptor u) :
    (d.debugText false = e.debugText false ↔
      d.valueClass.name = e.valueClass.name ∧ d.baseName = e.baseName ∧ d.source = e.source ∧
        d.reader.isSome = e.reader.isSome) ∧
    ∀ renderer, ({ d with renderer } : Descriptor t).debugText false = d.debugText false := by
  refine ⟨?_, fun _ => rfl⟩
  have no_comma (c : ValueClass) : ',' ∉ c.name.toList ++ [')'] := by
    simp [comma_notMem_name c]
  rw [← String.toList_inj, toList_debugText, toList_debugText, List.append_cancel_left_eq,
    append_mark_inj (no_comma _) (no_comma _), List.append_cancel_left_eq, quoted_append_inj,
    List.append_cancel_left_eq, quoted_append_inj, debugEnd_inj, List.append_cancel_right_eq,
    String.toList_inj]

end Descriptor

end ScriptTypes
