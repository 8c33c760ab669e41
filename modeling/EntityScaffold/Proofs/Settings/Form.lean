import EntityScaffold.Proofs.Settings.Places

/-!
Sections of a settings file: what one has to look like, what can be wrong with it, and how it is
read. The layout and what is said about templates are sections of this kind.
-/

namespace EntityScaffold

/-- The text of a string. -/
def Toml.Value.text? : Value → Option String
  | .string text => some text
  | _ => none

namespace Settings
open Toml

/-- What a section is called where something else was found, and its settings in their order, each
with what it has to be. -/
structure Shape where
  title : String
  fields : List (String × String)
  distinct : (fields.map Prod.fst).Nodup

namespace Shape

def names (shape : Shape) : List String := shape.fields.map Prod.fst

/-- What can be wrong with the value of a section, and where. -/
inductive Offends (shape : Shape) (span : Span) : Value → Place → Problem → Prop where
  | kind {value : Value} (scalar : value.isScalar) (other : value ≠ .moment) :
    Offends shape span value [] (.wrongKind value shape.title span)
  /-- A date or a time is taken for a table with a key of its own. -/
  | moment : Offends shape span .moment [] (.unknownKey momentKey shape.names span)
  | key {standing : Standing} {entries : List Entry} {entry : Entry} (mem : entry ∈ entries)
      (unknown : entry.1.name ∉ shape.names) :
    Offends shape span (.table standing entries) [.key entry.1.name]
      (.unknownKey entry.1.name shape.names entry.1.span)
  | setting {standing : Standing} {entries : List Entry} {entry : Entry} {wanted : String}
      (mem : entry ∈ entries) (known : (entry.1.name, wanted) ∈ shape.fields)
      (other : entry.2.2.text? = none) :
    Offends shape span (.table standing entries) [.key entry.1.name]
      (.wrongKind entry.2.2 wanted entry.2.1)
  | element {value : Value} {items : List (Span × Value)} {position : Nat} {item : Span × Value}
      {field : String × String} (elements : elements value = some items)
      (found : items[position]? = some item) (known : shape.fields[position]? = some field)
      (other : item.2.text? = none) :
    Offends shape span value [.index position] (.wrongKind item.2 field.2 item.1)

end Shape

/-- A table of strings under these names, or an array that begins with a string for each of them.
Some may be missing; what an array holds beyond them may be anything. -/
inductive Fits (names : List String) : Value → Prop where
  | table {standing : Standing} {entries : List Entry}
      (keys : ∀ entry ∈ entries, entry.1.name ∈ names)
      (strings : ∀ entry ∈ entries, ∃ text, entry.2.2 = .string text) :
    Fits names (.table standing entries)
  | list {value : Value} {items : List (Span × Value)} (elements : elements value = some items)
      (strings : ∀ item ∈ items.take names.length, ∃ text, item.2 = .string text) :
    Fits names value

/-- How the settings of a section are kept. -/
structure Form (shape : Shape) (σ : Type) where
  initial : σ
  set : σ → String → String → σ
  get : σ → String → Option String
  get_set : ∀ {name}, name ∈ shape.names → ∀ state text, get (set state name text) name = some text
  get_set_of_ne : ∀ {name}, name ∈ shape.names → ∀ {other}, other ≠ name → ∀ state text,
    get (set state name text) other = get state other

namespace Form

variable {shape : Shape} {σ : Type}

def readField (form : Form shape σ) (state : σ) (field : String × String) (span : Span)
    (value : Value) : Except Problem σ := do
  return form.set state field.1 (← text field.2 span value)

def readEntry (form : Form shape σ) (state : σ) (entry : Entry) : Except Problem σ :=
  match shape.fields.find? fun field => field.1 == entry.1.name with
  | some field => form.readField state field entry.2.1 entry.2.2
  | none => .error (.unknownKey entry.1.name shape.names entry.1.span)

def readElement (form : Form shape σ) (state : σ)
    (element : (String × String) × (Span × Value)) : Except Problem σ :=
  form.readField state element.1 element.2.1 element.2.2

def read (form : Form shape σ) (span : Span) (value : Value) : Except Problem σ :=
  match value with
  | .table _ entries => (inOrder entries).foldlM form.readEntry form.initial
  | .moment => .error (.unknownKey momentKey shape.names span)
  | _ =>
    match elements value with
    | some items => (shape.fields.zip items).foldlM form.readElement form.initial
    | none => .error (.wrongKind value shape.title span)

end Form

/-! ### The two sections -/

def layoutShape : Shape where
  title := "struct Layout"
  fields := [("models_dir", "path string"), ("tests_dir", "path string"),
    ("extension", "a string")]
  distinct := by decide

def templatesShape : Shape where
  title := "struct TemplatesConfig"
  fields := [("dir", "path string")]
  distinct := by decide

def layoutForm : Form layoutShape Layout where
  initial := {}
  set layout name text :=
    if name = "models_dir" then { layout with modelsDir := ⟨text⟩ }
    else if name = "tests_dir" then { layout with testsDir := ⟨text⟩ }
    else if name = "extension" then { layout with extension := text }
    else layout
  get layout name :=
    if name = "models_dir" then some layout.modelsDir.text
    else if name = "tests_dir" then some layout.testsDir.text
    else if name = "extension" then some layout.extension
    else none
  get_set {name} h state text := by
    simp only [Shape.names, layoutShape, List.map_cons, List.map_nil, List.mem_cons,
      List.not_mem_nil, or_false] at h
    rcases h with rfl | rfl | rfl <;> rfl
  get_set_of_ne {name} h other hne state text := by
    simp only [Shape.names, layoutShape, List.map_cons, List.map_nil, List.mem_cons,
      List.not_mem_nil, or_false] at h
    rcases h with rfl | rfl | rfl <;> simp [hne]

def templatesForm : Form templatesShape (Option Path) where
  initial := none
  set _ _ text := some ⟨text⟩
  get dir name := if name = "dir" then dir.map Path.text else none
  get_set {name} h state text := by
    simp only [Shape.names, templatesShape, List.map_cons, List.map_nil, List.mem_singleton] at h
    simp [h]
  get_set_of_ne {name} h other hne state text := by
    simp only [Shape.names, templatesShape, List.map_cons, List.map_nil, List.mem_singleton] at h
    subst h
    rw [if_neg hne, if_neg hne]

theorem fields_layoutShape :
    layoutShape.fields = LayoutKey.all.map fun key => (key.name, key.wanted) := rfl

theorem readLayoutKey_eq (layout : Layout) (key : LayoutKey) (span : Span) (value : Value) :
    readLayoutKey layout key span value =
      layoutForm.readField layout (key.name, key.wanted) span value := by
  cases key <;> rfl

theorem readLayoutEntry_eq : readLayoutEntry = layoutForm.readEntry := by
  funext layout ⟨key, span, value⟩
  rw [readLayoutEntry, Form.readEntry, fields_layoutShape, List.find?_map]
  dsimp only [Function.comp_def]
  cases LayoutKey.all.find? fun known => known.name == key.name with
  | none => rfl
  | some known => exact readLayoutKey_eq layout known span value

theorem foldlM_readLayoutKey (items : List (Span × Value)) :
    (LayoutKey.all.zip items).foldlM
        (fun layout (key, span, value) => readLayoutKey layout key span value) {} =
      (layoutShape.fields.zip items).foldlM layoutForm.readElement layoutForm.initial := by
  rw [fields_layoutShape, List.zip_map_left, List.foldlM_map]
  congr 1
  funext layout ⟨key, span, value⟩
  exact readLayoutKey_eq layout key span value

theorem readLayout_eq (span : Span) (value : Value) :
    readLayout span value = layoutForm.read span value := by
  cases value with
  | table standing entries => rw [readLayout, Form.read, readLayoutEntry_eq]; rfl
  | array items => exact foldlM_readLayoutKey items
  | tables items => exact foldlM_readLayoutKey _
  | _ => rfl

theorem readTemplatesEntry_eq : readTemplatesEntry = templatesForm.readEntry := by
  funext dir ⟨key, span, value⟩
  have hfields : templatesShape.fields = [("dir", "path string")] := rfl
  rw [readTemplatesEntry, Form.readEntry, hfields, List.find?_singleton]
  by_cases h : key.name = "dir"
  · rw [if_pos h, if_pos (by simp [h])]
    rfl
  · rw [if_neg h, if_neg (by simpa using Ne.symm h)]
    rfl

theorem readTemplatesDir_eq (span : Span) (value : Value) (rest : List (Span × Value)) :
    readTemplatesDir span value =
      (templatesShape.fields.zip ((span, value) :: rest)).foldlM templatesForm.readElement
        templatesForm.initial := by
  cases value <;> rfl

theorem readTemplates_eq (span : Span) (value : Value) :
    readTemplates span value = templatesForm.read span value := by
  cases value with
  | table standing entries => rw [readTemplates, Form.read, readTemplatesEntry_eq]; rfl
  | array items =>
    cases items with
    | nil => rfl
    | cons item rest => exact readTemplatesDir_eq item.1 item.2 rest
  | tables items =>
    cases items with
    | nil => rfl
    | cons item rest => exact readTemplatesDir_eq item.1 _ _
  | _ => rfl

end Settings

end EntityScaffold
