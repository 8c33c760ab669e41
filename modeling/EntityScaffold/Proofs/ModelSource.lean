import EntityScaffold.Generator
import EntityScaffold.Proofs.Part.Entries
import EntityScaffold.Proofs.Template.Lines
import EntityScaffold.Proofs.Text.Spelled

/-!
The source of a model, line by line: a line of the template that holds nothing but a part's token
gives one line for each field at the same indentation, and every other line keeps its text.
-/

namespace EntityScaffold

namespace Template

/-- Every token of the vocabulary. -/
def AnyToken (_ : Token) : Prop := True

instance : DecidablePred AnyToken := fun _ => inferInstanceAs (Decidable True)

/-- A line in pieces, cut at every token. -/
def linePieces (line : List Char) : Pieces := .ofText AnyToken line

/-- The part whose token stands alone on a line, and the indentation before it. Parameters are
written within a line. -/
def ownLine? : Pieces → Option (List Char × Part)
  | .cut indentation (.part part) (.plain []) =>
    if part ≠ .constructorParams ∧ indentation.all Text.isBlank then some (indentation, part)
    else none
  | _ => none

/-- The tokens that may stand within a line. -/
def inlineTokens : List Token := [.className, .variableName, .tableName, .part .constructorParams]

/-- A line fits an indentation: a part's token on a line of its own is indented as the part's
entries are, and within a line there are no tokens of other parts. -/
def Placed (indent : Indent) (pieces : Pieces) : Prop :=
  (∀ own ∈ ownLine? pieces, own.1 = (indent.leading own.2.level).toList) ∧
    (ownLine? pieces = none → ∀ place ∈ pieces.cuts, place.1 ∈ inlineTokens)

instance (indent : Indent) (pieces : Pieces) : Decidable (Placed indent pieces) :=
  inferInstanceAs (Decidable ((∀ own ∈ ownLine? pieces,
    own.1 = (indent.leading own.2.level).toList) ∧
      (ownLine? pieces = none → ∀ place ∈ pieces.cuts, place.1 ∈ inlineTokens)))

theorem eq_cut_of_ownLine {pieces : Pieces} {indentation : List Char} {part : Part}
    (h : ownLine? pieces = some (indentation, part)) :
    pieces = .cut indentation (.part part) (.plain []) ∧ part ≠ .constructorParams := by
  unfold ownLine? at h
  split at h
  · split at h
    · rename_i hp
      simp only [Option.some.injEq, Prod.mk.injEq] at h
      obtain ⟨rfl, rfl⟩ := h
      exact ⟨rfl, hp.1⟩
    · cases h
  · cases h

end Template

/-- What ends the line of an entry that is not the last one. -/
def Part.comma : Part → String
  | .structuredDecode => ","
  | _ => ""

/-- The lines of a part at an indentation, one for each field. -/
def Part.fieldLines (part : Part) (entity : Entity) (indentation : String) :
    List Field → List String
  | [] => []
  | [last] => [indentation ++ part.entry entity last]
  | field :: rest =>
    (indentation ++ part.entry entity field ++ part.comma) ::
      part.fieldLines entity indentation rest

/-- What stands for a token within a line. -/
def inlineText (entity : Entity) (fields : List Field) : Template.Token → String
  | .className => entity.className
  | .variableName => entity.variableName
  | .tableName => entity.tableName
  | .part part => ", ".intercalate (part.entries entity fields)

/-- The lines that a line of the model's template gives. Without fields the indentation stays. -/
def sourceLines (entity : Entity) (fields : List Field) (line : List Char) : List String :=
  match Template.ownLine? (Template.linePieces line) with
  | some (indentation, part) =>
    if fields = [] then [.ofList indentation]
    else part.fieldLines entity (.ofList indentation) fields
  | none => [.ofList ((Template.linePieces line).filled (inlineText entity fields))]

theorem Part.separator_eq {part : Part} (h : part ≠ .constructorParams) :
    part.separator.toList = part.comma.toList ++ ['\n'] := by
  cases part <;> first | rfl | exact absurd rfl h

theorem Part.toList_fieldLines (part : Part) (entity : Entity) (indentation : String)
    (first : Field) (rest : List Field) :
    (Template.ofLines (part.fieldLines entity indentation (first :: rest))).toList =
      indentation.toList ++ (part.entry entity first).toList ++
        rest.flatMap (fun field => part.comma.toList ++ '\n' ::
          (indentation.toList ++ (part.entry entity field).toList)) ++ ['\n'] := by
  induction rest generalizing first with
  | nil => simp [fieldLines, Template.toList_ofLines]
  | cons second rest ih =>
    have hlines : part.fieldLines entity indentation (first :: second :: rest) =
        [indentation ++ part.entry entity first ++ part.comma] ++
          part.fieldLines entity indentation (second :: rest) := rfl
    rw [hlines, Template.ofLines_append, String.toList_append, ih]
    simp [Template.toList_ofLines]

/-- A part on a line of its own ends up as one line for each field. -/
theorem Part.ofLines_fieldLines {part : Part} (hpart : part ≠ .constructorParams)
    (indent : Indent) (entity : Entity) {first : Field} {rest : List Field}
    (h : ∀ field ∈ first :: rest, Text.Tidy field.name.toList ∧ Text.Tidy field.type.toList) :
    (Template.ofLines (part.fieldLines entity (indent.leading part.level) (first :: rest))).toList =
      (indent.leading part.level).toList ++
        (part.render indent entity (first :: rest)).toList ++ ['\n'] := by
  rw [toList_fieldLines, part.toList_render_tidy indent entity h, written, Text.intercalate_cons,
    separator_eq hpart]
  simp [List.flatMap_map]

theorem Part.render_parameters (indent : Indent) (entity : Entity) {fields : List Field}
    (h : ∀ field ∈ fields, Text.Tidy field.name.toList ∧ Text.Tidy field.type.toList) :
    Part.constructorParams.render indent entity fields =
      ", ".intercalate (Part.constructorParams.entries entity fields) := by
  have hmargin : (indent.leading Part.constructorParams.level).toList = [] :=
    indent.leading_level_zero
  apply String.toList_injective
  rw [toList_render_tidy _ indent entity h, String.toList_intercalate, entries, List.map_map]
  cases fields with
  | nil => rfl
  | cons first rest => simp [written, hmargin, separator, Function.comp_def]

/-- The text that a model's bindings give each token. -/
def modelText (indent : Indent) (entity : Entity) (fields : List Field) :
    Template.Token → String
  | .className => entity.className
  | .variableName => entity.variableName
  | .tableName => entity.tableName
  | .part part => part.render indent entity fields

namespace Generator

variable (layout : Layout) (root : Path) (entity : Entity) (fields : List Field) (indent : Indent)

/-- A model binds the whole vocabulary. -/
theorem get?_model (token : Template.Token) :
    (model layout root entity fields indent).bindings.get? token =
      some (modelText indent entity fields token) := by
  cases token with
  | part part =>
    cases part <;>
      simp [model, Part.all, Template.Bindings.get?_bind, modelText]
  | _ =>
    simp [model, Part.all, Entity.bindings, Template.Bindings.get?_bind, modelText]

theorem substitute_model (line : List Char) :
    (model layout root entity fields indent).bindings.substituteFrom 0 line =
      (Template.linePieces line).filled (modelText indent entity fields) := by
  have hvalue : (model layout root entity fields indent).bindings.value =
      modelText indent entity fields := by
    funext token
    simp [Template.Bindings.value, get?_model]
  have hbinds (token : Template.Token) :
      (model layout root entity fields indent).bindings.Binds token ↔ Template.AnyToken token := by
    simp [Template.Bindings.Binds, Template.AnyToken, get?_model]
  rw [Template.Bindings.substituteFrom_eq_filled, hvalue, Template.Pieces.ofText_congr _ _ hbinds,
    Template.linePieces]

/-- One line of the template, with its line end, gives its lines of the source. -/
theorem ofLines_sourceLines {line : List Char}
    (hline : Template.Placed indent (Template.linePieces line))
    (h : ∀ field ∈ fields, Text.Tidy field.name.toList ∧ Text.Tidy field.type.toList) :
    (Template.ofLines (sourceLines entity fields line)).toList =
      (model layout root entity fields indent).bindings.substituteFrom 0 line ++ ['\n'] := by
  rw [substitute_model, sourceLines]
  cases ho : Template.ownLine? (Template.linePieces line) with
  | none =>
    have hvalue : ∀ token ∈ Template.inlineTokens,
        inlineText entity fields token = modelText indent entity fields token := by
      intro token ht
      simp only [Template.inlineTokens, List.mem_cons, List.not_mem_nil, or_false] at ht
      rcases ht with rfl | rfl | rfl | rfl
      · rfl
      · rfl
      · rfl
      · exact (Part.render_parameters indent entity h).symm
    have hfilled := Template.Pieces.filled_congr fun place hp => hvalue _ (hline.2 ho place hp)
    simp [Template.toList_ofLines, hfilled]
  | some own =>
    obtain ⟨indentation, part⟩ := own
    obtain ⟨hcut, hpart⟩ := Template.eq_cut_of_ownLine ho
    obtain rfl : indentation = (indent.leading part.level).toList := hline.1 _ ho
    rw [hcut]
    cases fields with
    | nil =>
      have hempty : part.render indent entity [] = "" := rfl
      simp [Template.toList_ofLines, Template.Pieces.filled, modelText, hempty]
    | cons first rest =>
      have hlines := part.ofLines_fieldLines hpart indent entity h
      simpa [Template.Pieces.filled, modelText] using hlines

/-- Every template whose lines fit the indentation gives its source line by line. -/
theorem substitute_placed {lines : List String}
    (hlines : ∀ line ∈ lines, Template.Placed indent (Template.linePieces line.toList))
    (h : ∀ field ∈ fields, Text.Tidy field.name.toList ∧ Text.Tidy field.type.toList) :
    (model layout root entity fields indent).bindings.substitute (Template.ofLines lines) =
      Template.ofLines (lines.flatMap fun line => sourceLines entity fields line.toList) := by
  rw [Template.substitute_ofLines]
  apply String.toList_injective
  induction lines with
  | nil => rfl
  | cons line rest ih =>
    have hline := ofLines_sourceLines layout root entity fields indent (hlines line (by simp)) h
    have hrest := ih fun other ho => hlines other (by simp [ho])
    rw [List.flatMap_cons, Template.ofLines_append, String.toList_append, hline, ← hrest]
    simp [Template.toList_ofLines, Template.Bindings.substitute]

end Generator

namespace Template

/-- The lines of the model's template fit the standard indentation, and eight of them hold a
part's token alone. -/
theorem modelLines_placed :
    (∀ line ∈ modelLines, Placed .standard (linePieces line.toList)) ∧
      modelLines.filterMap (fun line => ownLine? (linePieces line.toList)) =
        [(.replicate 4 ' ', .declarations), (.replicate 8 ' ', .keyConstants),
          (.replicate 8 ' ', .constructorBody), (.replicate 8 ' ', .rowDecode),
          (.replicate 8 ' ', .rowEncode), (.replicate 12 ' ', .columnDefinitions),
          (.replicate 12 ' ', .structuredDecode), (.replicate 8 ' ', .structuredEncode)] := by
  have hspelled : ∃ spelling, Text.Spelled modelLines spelling ∧
      (∀ line ∈ spelling, Placed .standard (linePieces line)) ∧
        spelling.filterMap (fun line => ownLine? (linePieces line)) =
          [(.replicate 4 ' ', .declarations), (.replicate 8 ' ', .keyConstants),
            (.replicate 8 ' ', .constructorBody), (.replicate 8 ' ', .rowDecode),
            (.replicate 8 ' ', .rowEncode), (.replicate 12 ' ', .columnDefinitions),
            (.replicate 12 ' ', .structuredDecode), (.replicate 8 ' ', .structuredEncode)] := by
    apply Exists.intro
    apply And.intro
    · dsimp only [modelLines]
      repeat apply Text.Spelled.cons
      exact .nil
    · decide +kernel
  obtain ⟨spelling, hs, hplaced, hown⟩ := hspelled
  have hmap := hs.map_toList
  refine ⟨?_, ?_⟩
  · intro line hl
    exact hplaced line.toList (hmap ▸ List.mem_map_of_mem hl)
  · rw [← hown, ← hmap, List.filterMap_map]
    rfl

end Template

namespace Generator

/-- The source of a model is its template, where each of the eight lines that hold a part's token
alone has become one line for each field at the same indentation, and the tokens within the other
lines have become the entity's names and the parameters. Names and types may hold anything, also
tokens, as long as they are not empty and have no white space at their ends. -/
theorem render_model_source (layout : Layout) (root : Path) (entity : Entity)
    (fields : List Field) (fs : FileSystem)
    (h : ∀ field ∈ fields, Text.Tidy field.name.toList ∧ Text.Tidy field.type.toList) :
    ((model layout root entity fields).render {} :
        ExceptT Failure (StateM FileSystem) String).run fs =
      (.ok (Template.ofLines (Template.modelLines.flatMap fun line =>
        sourceLines entity fields line.toList)), fs) ∧
    Template.modelLines.filterMap
        (fun line => Template.ownLine? (Template.linePieces line.toList)) =
      [(.replicate 4 ' ', .declarations), (.replicate 8 ' ', .keyConstants),
        (.replicate 8 ' ', .constructorBody), (.replicate 8 ' ', .rowDecode),
        (.replicate 8 ' ', .rowEncode), (.replicate 12 ' ', .columnDefinitions),
        (.replicate 12 ' ', .structuredDecode), (.replicate 8 ' ', .structuredEncode)] := by
  obtain ⟨hplaced, hown⟩ := Template.modelLines_placed
  have hsource := substitute_placed layout root entity fields .standard hplaced h
  refine ⟨?_, hown⟩
  rw [← hsource]
  rfl

/-- Fields that are named like a token and that begin with a letter whose capital is two letters. -/
theorem render_model_source_odd_fields :
    let fields : List Field := [⟨"_KEYS_DEFINITION_", "_CLASS_NAME_"⟩, ⟨"id", "ß, \n=0"⟩]
    (∀ field ∈ fields, Text.Tidy field.name.toList ∧ Text.Tidy field.type.toList) ∧
    ((model {} ⟨"."⟩ ⟨"post"⟩ fields).render {} :
        ExceptT Failure (StateM FileSystem) String).run .empty =
      (.ok (Template.ofLines (Template.modelLines.flatMap fun line =>
        sourceLines ⟨"post"⟩ fields line.toList)), .empty) ∧
    sourceLines ⟨"post"⟩ fields "    _IVARS_DEFINITION_".toList =
      ["    var _KEYS_DEFINITION_: _CLASS_NAME_", "    var id: SS, \n=0"] := by
  have h : ∀ field ∈ [(⟨"_KEYS_DEFINITION_", "_CLASS_NAME_"⟩ : Field), ⟨"id", "ß, \n=0"⟩],
      Text.Tidy field.name.toList ∧ Text.Tidy field.type.toList := by
    intro field hm
    simp only [List.mem_cons, List.not_mem_nil, or_false] at hm
    rcases hm with rfl | rfl <;> exact ⟨⟨by decide, by decide⟩, ⟨by decide, by decide⟩⟩
  exact ⟨h, (render_model_source {} ⟨"."⟩ ⟨"post"⟩ _ .empty h).1, by decide +kernel⟩

end Generator

end EntityScaffold
