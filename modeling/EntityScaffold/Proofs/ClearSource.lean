import EntityScaffold.Proofs.Naming.Separated
import EntityScaffold.Proofs.Template.Clear
import EntityScaffold.Proofs.TestsSource

/-!
No token is left in a finished source: none is in the names and types that are put in, none comes
about in one of their spellings, and none where a value meets the text around it.
-/

namespace EntityScaffold

/-! ### Spellings -/

namespace Naming
open Template (Clear)

theorem clear_capitalizeFirst {name : String} (h : Clear name.toList) :
    Clear (capitalizeFirst name).toList := by
  intro token ht
  obtain ⟨rest, hr⟩ := token.literal_sigil
  have hs : Text.Steady '_' := by decide
  rw [hr] at ht
  exact h token (hr ▸ infix_capitalizeFirst hs ht)

theorem clear_pluralize {name : String} (h : Clear name.toList) :
    Clear (pluralize name).toList := by
  unfold pluralize
  split
  · exact .nil
  · rw [String.toList_append]
    exact h.append_right (by decide)

theorem clear_separatorCase (name : String) : Clear (separatorCase name).toList := by
  apply Clear.of_no_capital
  intro c hc
  rw [separatorCase, String.toList_ofList] at hc
  exact (separatorChars_separated name.toList).not_isUpper hc

end Naming

theorem Text.clear_lowercase (text : String) : Template.Clear (lowercase text).toList := by
  apply Template.Clear.of_no_capital
  intro c hc
  rw [lowercase, String.toList_ofList] at hc
  exact not_isUpper_of_mem_lowerAfter hc

/-! ### Parts -/

namespace Part
open Template (Clear Foreign)

variable {entity : Entity}

theorem entry_clear (part : Part) {field : Field} (hentity : Clear entity.name.toList)
    (hname : Clear field.name.toList) (htype : Clear field.type.toList) :
    Clear (part.entry entity field).toList := by
  have hclass : Clear entity.className.toList := Naming.clear_capitalizeFirst hentity
  have htypeName : Clear field.typeName.toList := Naming.clear_capitalizeFirst htype
  have hcolumn : Clear field.columnType.toList := Text.clear_lowercase field.type
  have hkey : Clear field.key.toList := Naming.clear_separatorCase field.name
  have hpath : Clear (keyPath entity field).toList := by
    simp only [keyPath, String.toList_append]
    exact .between (by decide) hclass hname
  unfold entry
  cases part <;> simp only [String.toList_append]
  case declarations => exact .between (by decide) (.append_left (by decide) hname) htypeName
  case columnDefinitions =>
    exact .append_right (.between (by decide) (.append_left (by decide) hcolumn) hkey) (by decide)
  case keyConstants =>
    exact .append_right (.between (by decide) (.append_left (by decide) hname) hkey) (by decide)
  case structuredEncode | rowEncode =>
    exact .append_right (.between (by decide) (.append_left (by decide) hpath) hname) (by decide)
  case structuredDecode | rowDecode =>
    exact .append_right (.between (by decide) hname hpath) (by decide)
  case constructorParams => exact .between (by decide) hname htypeName
  case constructorBody => exact .between (by decide) (.append_left (by decide) hname) hname

theorem separator_foreign (part : Part) : Foreign part.separator.toList := by
  cases part <;> decide

theorem render_clear (part : Part) (indent : Indent) {fields : List Field}
    (hentity : Clear entity.name.toList)
    (hfields : ∀ field ∈ fields, Clear field.name.toList ∧ Clear field.type.toList) :
    Clear (part.render indent entity fields).toList := by
  have hmargin : '_' ∉ (indent.leading part.level).toList := by
    intro hm
    exact absurd (indent.leading_blank part.level '_' hm) (by decide)
  have hentry {field : Field} (hm : field ∈ fields) :=
    part.entry_clear hentity (hfields field hm).1 (hfields field hm).2
  rw [toList_render]
  apply Clear.of_infix _ (Text.trimChars_infix _)
  apply Clear.intercalate part.separator_foreign
  cases fields with
  | nil => simp [written]
  | cons first rest =>
    intro piece hp
    rcases List.mem_cons.mp hp with rfl | hp
    · exact hentry List.mem_cons_self
    · obtain ⟨field, hm, rfl⟩ := List.mem_map.mp hp
      exact .append_left hmargin (hentry (List.mem_cons_of_mem _ hm))

end Part

/-! ### Templates -/

namespace Template

/-- Foreign text stands before every token, and no sigil behind the last one. -/
def Pieces.Spaced : Pieces → Prop
  | plain text => '_' ∉ text
  | cut before _ after => Foreign before ∧ after.Spaced

instance Pieces.decidableSpaced : (pieces : Pieces) → Decidable pieces.Spaced
  | plain text => inferInstanceAs (Decidable ('_' ∉ text))
  | cut before _ after =>
    have := decidableSpaced after
    inferInstanceAs (Decidable (Foreign before ∧ after.Spaced))

/-- Values that hold no token give a text that holds none. -/
theorem Pieces.Spaced.filled_clear {pieces : Pieces} (h : pieces.Spaced)
    {value : Token → String} (hv : ∀ place ∈ pieces.cuts, Clear (value place.1).toList)
    {front : List Char} (hf : Clear front) : Clear (front ++ pieces.filled value) := by
  induction pieces generalizing front with
  | plain text => exact hf.append_right h
  | cut before token after ih =>
    obtain ⟨hbefore, hafter⟩ := h
    have hvalue : Clear (value token).toList := hv (token, _) List.mem_cons_self
    have hrest := ih hafter (fun place hp => hv place (List.mem_cons_of_mem _ hp)) hvalue
    rw [Pieces.filled, List.append_assoc, ← List.append_assoc front]
    exact .between hbefore hf hrest

/-- Where a line holds tokens, they are of some given ones and stand far enough from each other. -/
def Fillable (tokens : List Token) (pieces : Pieces) : Prop :=
  pieces.cuts ≠ [] → pieces.Spaced ∧ ∀ place ∈ pieces.cuts, place.1 ∈ tokens

instance (tokens : List Token) (pieces : Pieces) : Decidable (Fillable tokens pieces) :=
  inferInstanceAs (Decidable (_ → _))

/-- A line that was taken apart is clear if nothing was cut out of it. -/
theorem filled_clear {pieces : Pieces} {tokens : List Token} (hl : pieces.Leftmost AnyToken)
    (h : Fillable tokens pieces) {value : Token → String}
    (hv : ∀ token ∈ tokens, Clear (value token).toList) : Clear (pieces.filled value) := by
  cases hp : pieces with
  | plain text =>
    rw [hp] at hl
    exact fun token hi => hl ⟨token, trivial, hi⟩
  | cut before token after =>
    obtain ⟨hspaced, htokens⟩ := h (by simp [hp, Pieces.cuts])
    have hclear := hspaced.filled_clear (fun place hc => hv place.1 (htokens place hc)) Clear.nil
    rwa [hp, List.nil_append] at hclear

theorem substituteFrom_clear (bindings : Bindings) {tokens : List Token} {line : List Char}
    (h : Fillable tokens (linePieces line))
    (hv : ∀ token ∈ tokens, ∃ value, bindings.get? token = some value ∧ Clear value.toList) :
    Clear (bindings.substituteFrom 0 line) := by
  have hl : (linePieces line).Leftmost AnyToken := Pieces.ofText_leftmost AnyToken line
  have hbound : ∀ place ∈ (linePieces line).cuts, bindings.Binds place.1 := by
    intro place hp
    obtain ⟨value, hg, -⟩ := hv place.1 ((h (List.ne_nil_of_mem hp)).2 place hp)
    exact Option.isSome_iff_exists.mpr ⟨value, hg⟩
  have hpieces : linePieces line = .ofText bindings.Binds line := by
    have he := Pieces.eq_ofText bindings.Binds (hl.narrow (fun _ _ => trivial) hbound)
    rwa [linePieces, Pieces.source_ofText] at he
  rw [Bindings.substituteFrom_eq_filled, ← hpieces]
  apply filled_clear hl h
  intro token ht
  obtain ⟨value, hg, hclear⟩ := hv token ht
  rwa [Bindings.value, hg, Option.getD_some]

theorem ofLines_clear {lines : List String} (h : ∀ line ∈ lines, Clear line.toList) :
    Clear (ofLines lines).toList := by
  rw [toList_ofLines]
  induction lines with
  | nil => exact .nil
  | cons line rest ih =>
    rw [List.flatMap_cons]
    exact .between (by decide) (h line List.mem_cons_self)
      (ih fun other ho => h other (List.mem_cons_of_mem _ ho))

/-- A template of such lines leaves no token behind. -/
theorem substitute_clear (bindings : Bindings) {tokens : List Token} {lines : List String}
    (h : ∀ line ∈ lines, Fillable tokens (linePieces line.toList))
    (hv : ∀ token ∈ tokens, ∃ value, bindings.get? token = some value ∧ Clear value.toList) :
    Clear (bindings.substitute (ofLines lines)).toList := by
  rw [substitute_ofLines]
  apply ofLines_clear
  intro line hl
  obtain ⟨line, hm, rfl⟩ := List.mem_map.mp hl
  rw [Bindings.substitute, String.toList_ofList]
  exact substituteFrom_clear bindings (h line hm) hv

/-- The tokens of an entity. -/
def nameTokens : List Token := [.className, .variableName, .tableName]

theorem modelLines_fillable :
    ∀ line ∈ modelLines, Fillable Token.all (linePieces line.toList) := by
  apply Text.Spelled.forall_mem (p := fun line => Fillable Token.all (linePieces line))
  · dsimp only [modelLines]
    repeat apply Text.Spelled.cons
    exact .nil
  · decide +kernel

theorem testsLines_fillable :
    ∀ line ∈ testsLines, Fillable nameTokens (linePieces line.toList) := by
  apply Text.Spelled.forall_mem (p := fun line => Fillable nameTokens (linePieces line))
  · dsimp only [testsLines]
    repeat apply Text.Spelled.cons
    exact .nil
  · decide +kernel

end Template

/-! ### Sources -/

theorem modelText_clear (indent : Indent) {entity : Entity} {fields : List Field}
    (hentity : Template.Clear entity.name.toList)
    (hfields : ∀ field ∈ fields,
      Template.Clear field.name.toList ∧ Template.Clear field.type.toList)
    (token : Template.Token) : Template.Clear (modelText indent entity fields token).toList := by
  cases token with
  | className => exact Naming.clear_capitalizeFirst hentity
  | variableName => exact Text.clear_lowercase entity.name
  | tableName => exact Naming.clear_pluralize hentity
  | part part => exact part.render_clear indent hentity hfields

namespace Generator
open Template (Clear)

/-- No token is left in the sources of a model and of its tests if none is in the names and types
they were made of, whatever the indentation. Names may be parts of tokens. -/
theorem render_leaves_no_token (layout : Layout) (root : Path) (entity : Entity)
    (fields : List Field) (indent : Indent) (dir : Option Path) (fs : FileSystem)
    (hentity : Clear entity.name.toList)
    (hfields : ∀ field ∈ fields, Clear field.name.toList ∧ Clear field.type.toList) :
    ∃ modelSource testsSource : String,
      ((model layout root entity fields indent).render {} :
        ExceptT Failure (StateM FileSystem) String).run fs = (.ok modelSource, fs) ∧
      ((tests layout root entity dir).render {} :
        ExceptT Failure (StateM FileSystem) String).run fs = (.ok testsSource, fs) ∧
      Clear modelSource.toList ∧ Clear testsSource.toList := by
  have htext := modelText_clear indent hentity hfields
  refine ⟨_, _, rfl, rfl, ?_, ?_⟩
  · apply Template.substitute_clear _ Template.modelLines_fillable
    intro token _
    exact ⟨_, get?_model layout root entity fields indent token, htext token⟩
  · apply Template.substitute_clear _ Template.testsLines_fillable
    have hnames := names_tests layout root entity dir
    intro token ht
    simp only [Template.nameTokens, List.mem_cons, List.not_mem_nil, or_false] at ht
    rcases ht with rfl | rfl | rfl
    · exact ⟨_, hnames.className, htext .className⟩
    · exact ⟨_, hnames.variableName, htext .variableName⟩
    · exact ⟨_, hnames.tableName, htext .tableName⟩

/-- Names and types that are parts of tokens. -/
theorem render_leaves_no_token_halves :
    let fields : List Field := [⟨"_CLASS", "NAME_"⟩, ⟨"x_", "_DB_TABLE_NAME"⟩]
    (Clear (Entity.mk "CLASS_NAME").name.toList ∧
      ∀ field ∈ fields, Clear field.name.toList ∧ Clear field.type.toList) ∧
    ∃ modelSource testsSource : String,
      ((model {} ⟨"."⟩ ⟨"CLASS_NAME"⟩ fields .tab).render {} :
        ExceptT Failure (StateM FileSystem) String).run .empty = (.ok modelSource, .empty) ∧
      ((tests {} ⟨"."⟩ ⟨"CLASS_NAME"⟩ none).render {} :
        ExceptT Failure (StateM FileSystem) String).run .empty = (.ok testsSource, .empty) ∧
      Clear modelSource.toList ∧ Clear testsSource.toList := by
  have hentity : Clear (Entity.mk "CLASS_NAME").name.toList := by decide +kernel
  have hfields : ∀ field ∈ [(⟨"_CLASS", "NAME_"⟩ : Field), ⟨"x_", "_DB_TABLE_NAME"⟩],
      Clear field.name.toList ∧ Clear field.type.toList := by decide +kernel
  exact ⟨⟨hentity, hfields⟩,
    render_leaves_no_token {} ⟨"."⟩ ⟨"CLASS_NAME"⟩ _ .tab none .empty hentity hfields⟩

end Generator

end EntityScaffold
