import EntityScaffold.Proofs.Part.Entries

/-!
Reading the entries of a finished part back. All parts speak of the same fields in the same order.
-/

namespace EntityScaffold.Part

/-- The entries of a finished part. An empty part has none. -/
def readEntries (part : Part) (written : String) : List String :=
  if written = "" then []
  else (Text.cutAt part.separator.toList written.toList).map .ofList

theorem written_pieces (part : Part) (indent : Indent) {entity : Entity} {fields : List Field}
    (hclass : Unbroken entity.className)
    (hfields : ∀ field ∈ fields, Unbroken field.name ∧ Unbroken field.type) :
    ∀ piece ∈ part.written indent entity fields,
      ¬ Text.Blank piece ∧ ¬ part.separator.toList <:+: piece := by
  cases fields with
  | nil => simp [written]
  | cons first rest =>
    intro piece hp
    rcases List.mem_cons.mp hp with rfl | hp
    · obtain ⟨hname, htype⟩ := hfields first (by simp)
      exact ⟨part.entry_not_blank entity first,
        part.entry_without_separator hclass hname htype⟩
    · obtain ⟨field, hm, rfl⟩ := List.mem_map.mp hp
      obtain ⟨hname, htype⟩ := hfields field (by simp [hm])
      refine ⟨fun hb => part.entry_not_blank entity field fun c hc => hb c (by simp [hc]), ?_⟩
      exact part.indented_without_separator indent
        (part.entry_without_separator hclass hname htype)
        (part.entry_one_line hclass.oneLine hname.oneLine htype.oneLine)

theorem map_trim_written (part : Part) (indent : Indent) (entity : Entity) (fields : List Field) :
    (part.written indent entity fields).map Text.trimChars =
      fields.map fun field => Text.trimChars (part.entry entity field).toList := by
  cases fields with
  | nil => rfl
  | cons first rest =>
    simp [written, Text.trimChars_blank_append (indent.leading_blank _)]

theorem render_ne_empty (part : Part) (indent : Indent) (entity : Entity) (first : Field)
    (rest : List Field) : part.render indent entity (first :: rest) ≠ "" := by
  have hb : ¬ Text.Blank
      (part.separator.toList.intercalate (part.written indent entity (first :: rest))) := by
    rw [written, Text.intercalate_cons]
    exact fun hb => part.entry_not_blank entity first fun c hc => hb c (by simp [hc])
  intro he
  have ht := part.toList_render indent entity (first :: rest)
  rw [he] at ht
  exact Text.trimChars_ne_nil hb ht.symm

/-- Reading a part gives one entry for each field, in the order of the fields. -/
theorem readEntries_render (part : Part) (indent : Indent) {entity : Entity} {fields : List Field}
    (hclass : Unbroken entity.className)
    (hfields : ∀ field ∈ fields, Unbroken field.name ∧ Unbroken field.type) :
    (part.readEntries (part.render indent entity fields)).map Text.trim =
      fields.map fun field => Text.trim (part.entry entity field) := by
  cases fields with
  | nil => rfl
  | cons first rest =>
    have hcut := Text.map_trim_cutAt part.separator_ne_nil part.separator_unbordered
      (by simp [written]) (part.written_pieces indent hclass hfields)
    rw [map_trim_written] at hcut
    rw [readEntries, if_neg (part.render_ne_empty indent entity first rest), toList_render]
    have hmap := congrArg (List.map String.ofList) hcut
    rw [List.map_map, List.map_map] at hmap
    rw [List.map_map]
    simpa [Text.trim, Function.comp_def] using hmap

/-- All parts describe the same fields in the same order: each has one entry for each field, and
taking the fields in another order takes the entries of every part in that order. -/
theorem parts_agree (indent : Indent) (entity : Entity) (fields : List Field)
    (hclass : Unbroken entity.className)
    (hfields : ∀ field ∈ fields, Unbroken field.name ∧ Unbroken field.type) :
    (∀ part : Part,
      (part.readEntries (part.render indent entity fields)).length = fields.length ∧
      (part.readEntries (part.render indent entity fields)).map Text.trim =
        fields.map fun field => Text.trim (part.entry entity field)) ∧
    ∀ order : List Nat, order.Perm (List.range fields.length) → ∀ part : Part,
      (part.readEntries (part.render indent entity (order.filterMap (fields[·]?)))).map Text.trim =
        order.filterMap
          (((part.readEntries (part.render indent entity fields)).map Text.trim)[·]?) := by
  have hread (part : Part) := part.readEntries_render indent hclass hfields
  refine ⟨fun part => ⟨by simpa using congrArg List.length (hread part), hread part⟩, ?_⟩
  intro order _ part
  have hsub : ∀ field ∈ order.filterMap (fields[·]?),
      Unbroken field.name ∧ Unbroken field.type := by
    intro field hm
    obtain ⟨i, _, hi⟩ := List.mem_filterMap.mp hm
    exact hfields field (List.mem_of_getElem? hi)
  rw [part.readEntries_render indent hclass hsub, hread, List.map_filterMap]
  simp

/-- A type that ends in a comma before a name that begins with a space, and a field that is
empty altogether. -/
theorem parts_agree_odd_fields :
    let fields : List Field := [⟨"a", "x,"⟩, ⟨" b", "y"⟩, ⟨"", ""⟩]
    (Unbroken (Entity.mk "post").className ∧
      ∀ field ∈ fields, Unbroken field.name ∧ Unbroken field.type) ∧
    (Part.constructorParams.readEntries
      (Part.constructorParams.render .tab ⟨"post"⟩ fields)).map Text.trim = ["a:X,", "b:Y", ":"] := by
  have hclass : Unbroken (Entity.mk "post").className := ⟨by decide +kernel, by decide +kernel⟩
  have hfields : ∀ field ∈ [(⟨"a", "x,"⟩ : Field), ⟨" b", "y"⟩, ⟨"", ""⟩],
      Unbroken field.name ∧ Unbroken field.type := by
    intro field hm
    simp only [List.mem_cons, List.not_mem_nil, or_false] at hm
    rcases hm with rfl | rfl | rfl <;> exact ⟨⟨by decide, by decide⟩, ⟨by decide, by decide⟩⟩
  refine ⟨⟨hclass, hfields⟩, ?_⟩
  rw [((parts_agree .tab ⟨"post"⟩ _ hclass hfields).1 .constructorParams).2]
  decide +kernel

end EntityScaffold.Part
