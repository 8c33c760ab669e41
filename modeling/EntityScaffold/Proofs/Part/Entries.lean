import EntityScaffold.Part
import EntityScaffold.Proofs.Fragment
import EntityScaffold.Proofs.Naming

/-!
The entries of a model's parts: what they hold, how they begin and end, and how a finished part is
made of them.
-/

namespace EntityScaffold

/-- A text that ends no line and no argument. -/
structure Unbroken (text : String) : Prop where
  oneLine : '\n' ∉ text.toList
  oneArgument : ¬ [',', ' '] <:+: text.toList

namespace Part

/-- What stands between the entries of a part. -/
def separator : Part → String
  | .structuredDecode => ",\n"
  | .constructorParams => ", "
  | _ => "\n"

theorem between_joiner (part : Part) : part.joiner.between = part.separator := by
  cases part <;> rfl

theorem separator_ne_nil (part : Part) : part.separator.toList ≠ [] := by
  cases part <;> decide

theorem separator_unbordered (part : Part) : Text.Unbordered part.separator.toList := by
  cases part <;> decide

/-- The entries as they are written, all but the first behind their indentation. -/
def written (part : Part) (indent : Indent) (entity : Entity) : List Field → List (List Char)
  | [] => []
  | first :: rest =>
    (part.entry entity first).toList ::
      rest.map fun field => (indent.leading part.level).toList ++ (part.entry entity field).toList

theorem toList_render (part : Part) (indent : Indent) (entity : Entity) (fields : List Field) :
    (part.render indent entity fields).toList =
      Text.trimChars (part.separator.toList.intercalate (part.written indent entity fields)) := by
  rw [render, Fragment.text_pushAll _ _ rfl, Fragment.joint, String.toList_append, between_joiner,
    entries]
  cases fields with
  | nil => rfl
  | cons first rest =>
    rw [List.map_cons, List.map_cons, Text.intercalate_indented]
    simp [written, Function.comp_def]

/-- Every entry shows something, even where a field has neither a name nor a type. -/
theorem entry_not_blank (part : Part) (entity : Entity) (field : Field) :
    ¬ Text.Blank (part.entry entity field).toList := by
  have hmark : ∃ c ∈ (part.entry entity field).toList, Text.isBlank c = false := by
    cases part with
    | declarations => exact ⟨'v', by unfold entry; simp, by decide⟩
    | columnDefinitions => exact ⟨'$', by unfold entry; simp, by decide⟩
    | keyConstants => exact ⟨'=', by unfold entry; simp, by decide⟩
    | structuredEncode => exact ⟨'(', by unfold entry; simp, by decide⟩
    | structuredDecode => exact ⟨'(', by unfold entry; simp, by decide⟩
    | rowDecode => exact ⟨'(', by unfold entry; simp, by decide⟩
    | rowEncode => exact ⟨'(', by unfold entry; simp, by decide⟩
    | constructorParams => exact ⟨':', by unfold entry; simp, by decide⟩
    | constructorBody => exact ⟨'=', by unfold entry; simp, by decide⟩
  obtain ⟨c, hc, hn⟩ := hmark
  intro hb
  rw [hb c hc] at hn
  cases hn

/-- An entry ends no line if neither the class nor the field does. The column type and the key
are spelled in small letters, which end no line either. -/
theorem entry_one_line (part : Part) {entity : Entity} {field : Field}
    (hclass : '\n' ∉ entity.className.toList) (hname : '\n' ∉ field.name.toList)
    (htype : '\n' ∉ field.type.toList) : '\n' ∉ (part.entry entity field).toList := by
  have hsteady : Text.Steady '\n' := by decide
  have htypeName : '\n' ∉ field.typeName.toList :=
    fun h => htype (Naming.mem_capitalizeFirst_steady hsteady h)
  have hcolumn : '\n' ∉ field.columnType.toList :=
    fun h => htype (Text.mem_lowercase_steady hsteady h)
  have hkey : '\n' ∉ field.key.toList := by
    intro h
    rcases Naming.mem_separatorCase h with ha | he
    · exact absurd ha (by decide)
    · cases he
  have hpath : '\n' ∉ (keyPath entity field).toList := by
    simp [keyPath, hclass, hname]
  unfold entry
  cases part <;> simp only [String.toList_append, List.mem_append] <;> simp [*]

/-- A parameter holds no separator of parameters: its colon keeps name and type apart. -/
theorem parameter_one_argument {entity : Entity} {field : Field}
    (hname : ¬ [',', ' '] <:+: field.name.toList) (htype : ¬ [',', ' '] <:+: field.type.toList) :
    ¬ [',', ' '] <:+: (Part.constructorParams.entry entity field).toList := by
  have hsteady : Text.Steady ',' := by decide
  have htypeName : ¬ [',', ' '] <:+: field.typeName.toList :=
    fun h => htype (Naming.infix_capitalizeFirst hsteady h)
  intro h
  have hcolon : (Part.constructorParams.entry entity field).toList =
      field.name.toList ++ ':' :: field.typeName.toList := by
    unfold entry
    simp
  rw [hcolon] at h
  exact (Text.infix_around (by decide) h).elim hname htypeName

theorem entry_without_separator (part : Part) {entity : Entity} {field : Field}
    (hclass : Unbroken entity.className) (hname : Unbroken field.name)
    (htype : Unbroken field.type) :
    ¬ part.separator.toList <:+: (part.entry entity field).toList := by
  have hline := entry_one_line part hclass.oneLine hname.oneLine htype.oneLine
  intro h
  cases part with
  | constructorParams =>
    exact parameter_one_argument hname.oneArgument htype.oneArgument h
  | _ => exact hline (h.subset (by decide))

/-- An indented entry holds no separator either: parameters are not indented. -/
theorem indented_without_separator (part : Part) (indent : Indent) {entry : List Char}
    (h : ¬ part.separator.toList <:+: entry) (hline : '\n' ∉ entry) :
    ¬ part.separator.toList <:+: (indent.leading part.level).toList ++ entry := by
  intro hi
  have hlines : '\n' ∉ (indent.leading part.level).toList ++ entry := by
    simp [indent.leading_one_line, hline]
  cases part with
  | constructorParams =>
    rw [level, indent.leading_level_zero, List.nil_append] at hi
    exact h hi
  | _ => exact hlines (hi.subset (by decide))

/-- An entry begins and ends with something to see if the names and types do. -/
theorem entry_tidy (part : Part) (entity : Entity) {field : Field}
    (hname : Text.Tidy field.name.toList) (htype : Text.Tidy field.type.toList) :
    Text.Tidy (part.entry entity field).toList := by
  have htypeName : Text.LastShown field.typeName.toList := Naming.capitalizeFirst_last htype.last
  unfold entry
  refine ⟨?_, ?_⟩
  · cases part <;> simp only [String.toList_append]
    all_goals repeat apply Text.FirstShown.append
    case structuredDecode | rowDecode | constructorParams => exact hname.first
    all_goals decide
  · cases part <;> simp only [String.toList_append] <;> apply Text.LastShown.append
    case declarations | constructorParams => exact htypeName
    case constructorBody => exact hname.last
    all_goals decide

/-- Nothing is trimmed off a part whose entries show at both ends. -/
theorem toList_render_tidy (part : Part) (indent : Indent) (entity : Entity) {fields : List Field}
    (h : ∀ field ∈ fields, Text.Tidy field.name.toList ∧ Text.Tidy field.type.toList) :
    (part.render indent entity fields).toList =
      part.separator.toList.intercalate (part.written indent entity fields) := by
  rw [toList_render]
  cases fields with
  | nil => rfl
  | cons first rest =>
    have htidy : ∀ field ∈ first :: rest, Text.Tidy (part.entry entity field).toList :=
      fun field hm => part.entry_tidy entity (h field hm).1 (h field hm).2
    apply Text.Tidy.trimChars
    apply Text.tidy_intercalate _ (htidy first (by simp)).first
    intro piece hp
    rcases List.mem_cons.mp hp with rfl | hp
    · exact (htidy first (by simp)).last
    · obtain ⟨field, hm, rfl⟩ := List.mem_map.mp hp
      exact .append _ (htidy field (by simp [hm])).last

end Part

end EntityScaffold
