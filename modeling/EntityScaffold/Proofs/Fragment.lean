import EntityScaffold.Fragment
import EntityScaffold.Proofs.Text.Joined
import EntityScaffold.Proofs.Text.Trim

/-!
A finished fragment is its entries with one joint between neighbours, trimmed. Lines and
separated entries differ in the joint only.
-/

namespace EntityScaffold

/-- What stands between two entries, apart from the indentation. -/
def Joiner.between : Joiner → String
  | .lines => "\n"
  | .separated separator => separator

/-- What stands behind the last entry. -/
def Joiner.ending : Joiner → String
  | .lines => "\n"
  | .separated _ => ""

theorem Joiner.ending_blank (joiner : Joiner) : Text.Blank joiner.ending.toList := by
  cases joiner with
  | lines => simp [Text.Blank, ending, Text.isBlank_newline]
  | separated separator => simp [Text.Blank, ending]

theorem Indent.leading_blank (indent : Indent) (level : Nat) :
    Text.Blank (indent.leading level).toList := by
  cases indent with
  | spaces width =>
    rw [leading, String.toList_ofList]
    exact Text.blank_replicate (by decide) _
  | tab =>
    rw [leading, String.toList_ofList]
    exact Text.blank_replicate (by decide) _

theorem Indent.leading_one_line (indent : Indent) (level : Nat) :
    '\n' ∉ (indent.leading level).toList := by
  cases indent <;> simp [leading]

theorem Indent.leading_level_zero (indent : Indent) : (indent.leading 0).toList = [] := by
  cases indent <;> simp [leading]

namespace Fragment

/-- What stands between two entries. -/
def joint (fragment : Fragment) : List Char :=
  (fragment.joiner.between ++ fragment.indent.leading fragment.level).toList

theorem push_frame (fragment : Fragment) (first : Bool) (entry : String) :
    (fragment.push first entry).joiner = fragment.joiner ∧
      (fragment.push first entry).joint = fragment.joint :=
  ⟨rfl, rfl⟩

theorem written_push_first (fragment : Fragment) (entry : String) :
    (fragment.push true entry).written.toList =
      fragment.written.toList ++ (fragment.indent.leading fragment.level).toList ++
        entry.toList ++ fragment.joiner.ending.toList := by
  cases hj : fragment.joiner <;> simp [push, hj, Joiner.ending]

theorem written_push_next (fragment : Fragment) (before : List Char) (entry : String)
    (h : fragment.written.toList = before ++ fragment.joiner.ending.toList) :
    (fragment.push false entry).written.toList =
      before ++ fragment.joint ++ entry.toList ++ fragment.joiner.ending.toList := by
  cases hj : fragment.joiner <;>
    simp [push, hj, h, Joiner.ending, Joiner.between, joint]

theorem written_foldl_push (fragment : Fragment) (before : List Char) (entries : List String)
    (h : fragment.written.toList = before ++ fragment.joiner.ending.toList) :
    (entries.foldl (·.push false ·) fragment).written.toList =
      before ++ entries.flatMap (fun entry => fragment.joint ++ entry.toList) ++
        fragment.joiner.ending.toList := by
  induction entries generalizing fragment before with
  | nil => simpa using h
  | cons entry rest ih =>
    obtain ⟨hj, ht⟩ := fragment.push_frame false entry
    have hw := fragment.written_push_next before entry h
    rw [← hj] at hw
    rw [List.foldl_cons, ih _ _ hw, hj, ht]
    simp

/-- How the first entry is indented and how the last one ends does not show: both are blank and
are trimmed off. -/
theorem text_pushAll (fragment : Fragment) (entries : List String) (h : fragment.written = "") :
    (fragment.pushAll entries).text.toList =
      Text.trimChars (fragment.joint.intercalate (entries.map String.toList)) := by
  cases entries with
  | nil => simp [pushAll, text, Text.trim, h]
  | cons entry rest =>
    have hw := fragment.written_push_first entry
    rw [h, String.toList_empty, List.nil_append] at hw
    have hf := written_foldl_push (fragment.push true entry) _ rest hw
    rw [pushAll, text, Text.trim, String.toList_ofList, hf, List.append_assoc, List.append_assoc,
      Text.trimChars_blank_append (Indent.leading_blank _ _), ← List.append_assoc,
      Text.trimChars_append_blank _ (Joiner.ending_blank _), List.map_cons, Text.intercalate_cons,
      List.flatMap_map]
    rfl

/-- A fragment is its entries with a line end or the separator between neighbours, and then the
level's indentation, trimmed at the ends. So lines are the same as entries that a line end
separates, whatever white space the entries have. -/
theorem text_of_entries (indent : Indent) (level : Nat) (entries : List String) :
    (pushAll { indent, level, joiner := .lines } entries).text =
      Text.trim (("\n" ++ indent.leading level).intercalate entries) ∧
    (∀ separator : String,
      (pushAll { indent, level, joiner := .separated separator } entries).text =
        Text.trim ((separator ++ indent.leading level).intercalate entries)) ∧
    (∀ joiner : Joiner, (pushAll { indent, level, joiner } []).text = "") ∧
    (pushAll { indent, level, joiner := .lines } entries).text =
      (pushAll { indent, level, joiner := .separated "\n" } entries).text := by
  have htext (joiner : Joiner) : (pushAll { indent, level, joiner } entries).text =
      Text.trim ((joiner.between ++ indent.leading level).intercalate entries) := by
    apply String.toList_injective
    rw [text_pushAll _ _ rfl, Text.trim, String.toList_ofList, String.toList_intercalate, joint]
  exact ⟨htext .lines, fun separator => htext (.separated separator), fun _ => rfl,
    (htext .lines).trans (htext (.separated "\n")).symm⟩

/-- Blank entries count as lines between others, and only the white space at the ends goes. -/
example : (pushAll { indent := .tab, level := 1, joiner := .lines } ["\n", " a ", "", "b\n"]).text =
    "a \n\t\n\tb" := by
  decide +kernel

end Fragment

end EntityScaffold
