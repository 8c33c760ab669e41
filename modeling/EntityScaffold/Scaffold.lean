import EntityScaffold.Generator

/-!
Making a model together with its tests.
-/

namespace EntityScaffold

/-- What a user asks for: an entity with its fields. Words that declare no field are kept aside. -/
structure Request where
  entity : Entity
  fields : List Field
  ignored : List String
  deriving DecidableEq, Repr

namespace Request

/-- Read a request from words: the name of the entity, then its fields. -/
def ofArgs : List String → Except Failure Request
  | [] => .error (.missingArgument "name")
  | name :: rest =>
    if name = "" then .error (.missingArgument "name")
    else
      .ok {
        entity := ⟨name⟩
        fields := rest.filterMap Field.parse?
        ignored := rest.filter fun token => !token.toList.contains ':' }

end Request

/-- A project root with the layout and the templates to be used in it. -/
structure Scaffold where
  root : Path
  layout : Layout
  store : Template.Store
  deriving DecidableEq, Repr

structure ScaffoldedFiles where
  model : WrittenFile
  tests : WrittenFile
  deriving DecidableEq, Repr

namespace Scaffold

def model (scaffold : Scaffold) (request : Request) : Generator :=
  .model scaffold.layout scaffold.root request.entity request.fields

def tests (scaffold : Scaffold) (request : Request) : Generator :=
  .tests scaffold.layout scaffold.root request.entity

variable {m : Type → Type} [Monad m] [Files m]

/-- Both files as they would be written, the model first. -/
def preview (scaffold : Scaffold) (request : Request) : ExceptT Failure m (List Preview) := do
  let model ← (scaffold.model request).preview scaffold.store
  let tests ← (scaffold.tests request).preview scaffold.store
  return [model, tests]

/-- Write the model, then its tests. A model that was written stays when its tests fail. -/
def run (scaffold : Scaffold) (request : Request) : ExceptT Failure m ScaffoldedFiles := do
  let model ← (scaffold.model request).generate scaffold.store
  let tests ← (scaffold.tests request).generate scaffold.store
  return ⟨model, tests⟩

end Scaffold

end EntityScaffold
