import EntityScaffold.Report
import EntityScaffold.Scaffold

/-!
Projects: opening one, making sources in it, and setting up a new one.
-/

namespace EntityScaffold

/-- A project's root with its settings and the templates it uses. -/
structure Project where
  root : Path
  settings : Settings
  store : Template.Store
  deriving DecidableEq, Repr

variable {m : Type → Type} [Monad m] [Files m]

def Settings.ofFile (path : Path) : ExceptT Failure m Settings := do
  match ← (Files.readText path : m _) with
  | .ok content => Settings.parseFile path.text content
  | .error _ => throw (.unreadable path)

/-- The settings in a file, or the default ones where there is no such file. -/
def Settings.ofFileOrDefault (path : Path) : ExceptT Failure m Settings := do
  match ← (Files.readText path : m _) with
  | .ok content => Settings.parseFile path.text content
  | .error .notFound => return {}
  | .error _ => throw (.unreadable path)

namespace Project

/-- Open the project at a root. A settings file that is asked for has to be there; the root's own
one need not. A directory of templates that is asked for takes the place of the configured one.
Both are relative to the root. -/
def openAt (root : Path) (config templates : Option Path) : ExceptT Failure m Project := do
  let settings ← match config with
    | some path => Settings.ofFile path
    | none => Settings.ofFileOrDefault (root.join Settings.fileName)
  let directory := (templates <|> settings.templatesDir).map root.join
  return { root, settings, store := { directory } }

def scaffold (project : Project) : Scaffold :=
  ⟨project.root, project.settings.layout, project.store⟩

/-- What is said about a word that declares no field. -/
def ignoredWarning (token : String) : String :=
  "ignoring '" ++ token ++ "': fields are written as name:type"

/-- Make the files of a request, or show what they would be. -/
def modelFiles (project : Project) (request : Request) (dryRun : Bool) :
    ExceptT Failure m Generation :=
  if dryRun then .previewed <$> project.scaffold.preview request
  else (fun files => .written [files.model, files.tests]) <$> project.scaffold.run request

/-- Make a model and its tests, and report on it. A dry run writes nothing. -/
def model (project : Project) (request : Request) (dryRun : Bool) :
    ExceptT Failure m GenerationReport := do
  return {
    subject := "Model '" ++ request.entity.name ++ "'"
    fields := some (request.fields.map Field.text)
    warnings := request.ignored.map ignoredWarning
    result := ← project.modelFiles request dryRun }

/-- Make the tests of an entity alone, or show what they would be. -/
def testsFiles (project : Project) (entity : Entity) (dir : Option Path) (dryRun : Bool) :
    ExceptT Failure m Generation :=
  let generator := Generator.tests project.settings.layout project.root entity dir
  if dryRun then (fun file => .previewed [file]) <$> generator.preview project.store
  else (fun file => .written [file]) <$> generator.generate project.store

/-- Make the tests of an entity alone, and report on it. A dry run writes nothing. -/
def tests (project : Project) (entity : Entity) (dir : Option Path) (dryRun : Bool) :
    ExceptT Failure m GenerationReport := do
  return {
    subject := "Tests for '" ++ entity.name ++ "'"
    fields := none
    warnings := []
    result := ← project.testsFiles entity dir dryRun }

/-- The files of a new project: its settings, and the built-in templates to be changed at will. -/
def setupFiles (root : Path) (templatesDir : Option Path) : List OutputFile :=
  let dir := templatesDir.getD Settings.standardTemplatesDir
  { path := root.join Settings.fileName
    content := Settings.fileContent dir
    overwrite := .ifMissing } ::
  Template.builtin.map fun (name, text) =>
    { path := Template.Store.templatePath (root.join dir) name
      content := text
      overwrite := .ifMissing }

structure SetupFailure where
  path : Path
  deriving DecidableEq, Repr

def SetupFailure.message (failure : SetupFailure) : String :=
  "Failed to write " ++ failure.path.text

/-- Write files in order, and stop at the first one that cannot be written. -/
def writeAll : List OutputFile → ExceptT SetupFailure m (List WrittenFile)
  | [] => return []
  | file :: rest => do
    match ← (file.write : m _) with
    | .error _ => throw ⟨file.path⟩
    | .ok outcome => return ⟨file.path, outcome⟩ :: (← writeAll rest)

/-- Set up a project. Files that their paths lead to are kept. -/
def setup (root : Path) (templatesDir : Option Path) : ExceptT SetupFailure m SetupReport := do
  return ⟨root, ← writeAll (setupFiles root templatesDir)⟩

end Project

end EntityScaffold
