import EntityScaffold.Failure
import EntityScaffold.Files
import EntityScaffold.Template.Builtin

/-!
Finding a template by its name: in a directory, among the built-in ones, or in both.
-/

namespace EntityScaffold.Template

/-- Where templates are looked for. The directory comes first. -/
structure Store where
  directory : Option Path := none
  builtin : Bool := true
  deriving DecidableEq, Repr

namespace Store

def templatePath (dir : Path) (name : String) : Path := dir.join ⟨name ++ ".template"⟩

/-- Where a template was looked for, in words. -/
def places (store : Store) (name : String) : List String :=
  (match store.directory with
    | some dir => ["'" ++ (templatePath dir name).text ++ "'"]
    | none => []) ++
  (if store.builtin then ["the built-in templates"] else [])

/-- The built-in template of a name, if the store has it. -/
def loadBuiltin (store : Store) (name : String) : Except Failure String :=
  match if store.builtin then Template.builtin.lookup name else none with
  | some text => .ok text
  | none => .error (.templateNotFound name (store.places name))

/-- The text of a template. A file that is not there is passed over; one that cannot be read is
not. -/
def load {m : Type → Type} [Monad m] [Files m] (store : Store) (name : String) :
    ExceptT Failure m String := do
  match store.directory with
  | none => store.loadBuiltin name
  | some dir =>
    match ← (Files.readText (templatePath dir name) : m _) with
    | .ok text => return text
    | .error .notFound => store.loadBuiltin name
    | .error _ => throw (.unreadable (templatePath dir name))

end Store

end EntityScaffold.Template
