import EntityScaffold.Text.Split
import EntityScaffold.Proofs.Part.Entries
import EntityScaffold.Proofs.Text.Lines

/-!
Indentation is white space at the beginning of lines and nothing else. Every part has the lines of
its entries as they are without any.
-/

namespace EntityScaffold.Part

/-- Parameters stand on one line. The entries of every other part end theirs. -/
theorem separator_cases (part : Part) :
    part = .constructorParams ∨ ∃ ending, part.separator.toList = ending ++ ['\n'] := by
  cases part with
  | constructorParams => exact .inl rfl
  | structuredDecode => exact .inr ⟨[','], rfl⟩
  | _ => exact .inr ⟨[], rfl⟩

/-- Parameters are not indented at all. -/
theorem render_params (indent : Indent) (entity : Entity) (fields : List Field) :
    Part.constructorParams.render indent entity fields =
      Text.trim (", ".intercalate (Part.constructorParams.entries entity fields)) := by
  apply String.toList_injective
  rw [render, Fragment.text_pushAll _ _ rfl, Text.trim, String.toList_ofList,
    String.toList_intercalate, Fragment.joint, String.toList_append, level,
    indent.leading_level_zero, List.append_nil]
  rfl

/-- The lines of a part show what they would show if nothing was indented. -/
theorem shownLines_render (part : Part) (indent : Indent) (entity : Entity)
    (fields : List Field) :
    Text.shownLines (part.render indent entity fields).toList =
      Text.shownLines (Text.trimChars
        (part.separator.toList.intercalate ((part.entries entity fields).map String.toList))) := by
  rcases part.separator_cases with rfl | ⟨ending, hs⟩
  · rw [render_params, Text.trim, String.toList_ofList, String.toList_intercalate]
    rfl
  · have hjoint (fragment : Fragment) (hf : fragment.joiner = part.joiner) : fragment.joint =
        ending ++ '\n' :: (fragment.indent.leading fragment.level).toList := by
      rw [Fragment.joint, hf, between_joiner, String.toList_append, hs]
      simp
    rw [render, Fragment.text_pushAll _ _ rfl, hjoint _ rfl, Text.shownLines_trimChars,
      Text.shownLines_trimChars, Text.shownLines_intercalate (Indent.leading_blank _ _)
        (Indent.leading_one_line _ _), hs]

/-- How the source is indented does not matter but for the white space at the beginning of lines:
line by line, every part shows the same, and parameters are the same altogether. -/
theorem lines_any_indentation (entity : Entity) (fields : List Field) (indent other : Indent) :
    (∀ part : Part,
      (Text.splitOn '\n' (part.render indent entity fields)).map Text.trim =
        (Text.splitOn '\n' (part.render other entity fields)).map Text.trim) ∧
    Part.constructorParams.render indent entity fields =
      Part.constructorParams.render other entity fields := by
  refine ⟨fun part => ?_, by rw [render_params, render_params]⟩
  have hlines (text : String) : (Text.splitOn '\n' text).map Text.trim =
      (Text.shownLines text.toList).map .ofList := by
    simp [Text.splitOn, Text.shownLines, Text.trim, Function.comp_def]
  rw [hlines, hlines, shownLines_render, shownLines_render]

end EntityScaffold.Part
