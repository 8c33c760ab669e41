import EntityScaffold.Layout
import EntityScaffold.Settings.Problem
import EntityScaffold.Toml.Document
import EntityScaffold.Toml.Spelling

/-!
A project's settings, and reading them from a TOML document. The keys of every table are looked
at in ascending order, so what a document says does not hang on the order of its lines.
-/

namespace EntityScaffold

/-- The settings of a project. Without a directory of its own it uses the built-in templates. -/
structure Settings where
  layout : Layout := {}
  templatesDir : Option Path := none
  deriving DecidableEq, Repr

namespace Settings

inductive LayoutKey where
  | modelsDir
  | testsDir
  | extension
  deriving DecidableEq, Repr

namespace LayoutKey

/-- The settings in their order, which counts where they are given as a list. -/
def all : List LayoutKey := [.modelsDir, .testsDir, .extension]

def name : LayoutKey → String
  | .modelsDir => "models_dir"
  | .testsDir => "tests_dir"
  | .extension => "extension"

def wanted : LayoutKey → String
  | .modelsDir | .testsDir => "path string"
  | .extension => "a string"

def set (layout : Layout) (text : String) : LayoutKey → Layout
  | .modelsDir => { layout with modelsDir := ⟨text⟩ }
  | .testsDir => { layout with testsDir := ⟨text⟩ }
  | .extension => { layout with extension := text }

end LayoutKey

/-- Put an entry where its key belongs among entries in ascending order. -/
def insertInOrder (entry : Toml.Entry) : List Toml.Entry → List Toml.Entry
  | [] => [entry]
  | other :: rest =>
    if other.1.name < entry.1.name then other :: insertInOrder entry rest
    else entry :: other :: rest

def inOrder (entries : List Toml.Entry) : List Toml.Entry := entries.foldr insertInOrder []

/-- The text of a value that has to be a string. -/
def text (wanted : String) (span : Toml.Span) : Toml.Value → Except Problem String
  | .string text => .ok text
  | value => .error (.wrongKind value wanted span)

def readLayoutKey (layout : Layout) (key : LayoutKey) (span : Toml.Span) (value : Toml.Value) :
    Except Problem Layout := do
  return key.set layout (← text key.wanted span value)

def readLayoutEntry (layout : Layout) (entry : Toml.Entry) : Except Problem Layout :=
  let (key, span, value) := entry
  match LayoutKey.all.find? fun known => known.name == key.name with
  | some known => readLayoutKey layout known span value
  | none => .error (.unknownKey key.name (LayoutKey.all.map LayoutKey.name) key.span)

/-- The values of an array, with the places where they stand. -/
def elements : Toml.Value → Option (List (Toml.Span × Toml.Value))
  | .array items => some items
  | .tables items => some (items.map fun (span, entries) => (span, .table .declared entries))
  | _ => none

/-- The name under which a date or a time shows itself where a table is asked for. -/
def momentKey : String := "$__toml_private_datetime"

/-- Read the layout from a table, or from an array that lists the settings in their order. What
is left of the array is passed over. -/
def readLayout (span : Toml.Span) (value : Toml.Value) : Except Problem Layout :=
  match value with
  | .table _ entries => (inOrder entries).foldlM readLayoutEntry {}
  | .moment => .error (.unknownKey momentKey (LayoutKey.all.map LayoutKey.name) span)
  | _ =>
    match elements value with
    | some items =>
      (LayoutKey.all.zip items).foldlM
        (fun layout (key, span, value) => readLayoutKey layout key span value) {}
    | none => .error (.wrongKind value "struct Layout" span)

def readTemplatesDir (span : Toml.Span) (value : Toml.Value) :
    Except Problem (Option Path) := do
  return some ⟨← text "path string" span value⟩

def readTemplatesEntry (_ : Option Path) (entry : Toml.Entry) : Except Problem (Option Path) :=
  let (key, span, value) := entry
  if key.name = "dir" then readTemplatesDir span value
  else .error (.unknownKey key.name ["dir"] key.span)

/-- Read what is said about templates, from a table or from an array with the directory. -/
def readTemplates (span : Toml.Span) (value : Toml.Value) : Except Problem (Option Path) :=
  match value with
  | .table _ entries => (inOrder entries).foldlM readTemplatesEntry none
  | .moment => .error (.unknownKey momentKey ["dir"] span)
  | _ =>
    match elements value with
    | some [] => .ok none
    | some ((span, value) :: _) => readTemplatesDir span value
    | none => .error (.wrongKind value "struct TemplatesConfig" span)

def readEntry (settings : Settings) (entry : Toml.Entry) : Except Problem Settings :=
  let (key, span, value) := entry
  if key.name = "layout" then
    (readLayout span value).map fun layout => { settings with layout }
  else if key.name = "templates" then
    (readTemplates span value).map fun templatesDir => { settings with templatesDir }
  else .error (.unknownKey key.name ["layout", "templates"] key.span)

/-- The settings a document gives; what it does not mention keeps its default. -/
def ofEntries (entries : List Toml.Entry) : Except Problem Settings :=
  (inOrder entries).foldlM readEntry {}

def parse (content : String) : Except Problem Settings :=
  match Toml.parse? content with
  | none => .error .notToml
  | some entries => ofEntries entries

def fileName : Path := ⟨"forge.toml"⟩

/-- The directory where templates are put unless another one is asked for. -/
def standardTemplatesDir : Path := ⟨"Resources/Templates"⟩

/-- A settings file with the default layout and the given directory of templates. -/
def fileContent (templatesDir : Path) : String :=
"# modelforge configuration

[layout]
models_dir = \"Sources/App/Models\"
tests_dir = \"Tests/AppTests/Models\"
extension = \"swift\"

[templates]
# Templates in this directory take precedence over the built-in ones.
dir = " ++ Toml.spell templatesDir.text ++ "\n"

end Settings

end EntityScaffold
