import EntityScaffold.Template.Bindings
import EntityScaffold.Template.Store

/-!
Making a file from a template: a model's source, or its tests.
-/

namespace EntityScaffold

/-- A file that is still to be made: its template, the values of the tokens, and its path. -/
structure Generator where
  templateName : String
  destination : Path
  bindings : Template.Bindings
  deriving DecidableEq, Repr

structure Preview where
  path : Path
  content : String
  deriving DecidableEq, Repr

/-- A file that was written, or kept. -/
structure WrittenFile where
  path : Path
  outcome : Written
  deriving DecidableEq, Repr

def Entity.bindings (entity : Entity) : Template.Bindings :=
  (({} : Template.Bindings).bind .className entity.className).bind .variableName
    entity.variableName |>.bind .tableName entity.tableName

/-- Substitute into a template and write the result. -/
def Template.renderTo {m : Type → Type} [Monad m] [Files m] (template : String)
    (bindings : Template.Bindings) (path : Path) : ExceptT Failure m WrittenFile := do
  let file : OutputFile := { path, content := bindings.substitute template }
  match ← (file.write : m _) with
  | .ok outcome => return ⟨path, outcome⟩
  | .error _ => throw (.unwritable path)

namespace Generator

/-- The source of a model. Every part is bound to its fragment. -/
def model (layout : Layout) (root : Path) (entity : Entity) (fields : List Field)
    (indent : Indent := .standard) : Generator where
  templateName := "Model"
  destination := layout.modelPath root entity.className
  bindings := Part.all.foldl
    (fun bindings part => bindings.bind (.part part) (part.render indent entity fields))
    entity.bindings

/-- The tests of a model, in the layout's directory unless another one is given. -/
def tests (layout : Layout) (root : Path) (entity : Entity) (dir : Option Path := none) :
    Generator where
  templateName := "Tests"
  destination := layout.testsPathIn (dir.getD layout.testsDir) root entity.className
  bindings := entity.bindings

variable {m : Type → Type} [Monad m] [Files m]

def render (generator : Generator) (store : Template.Store) : ExceptT Failure m String := do
  return generator.bindings.substitute (← store.load generator.templateName)

def preview (generator : Generator) (store : Template.Store) : ExceptT Failure m Preview := do
  return ⟨generator.destination, ← generator.render store⟩

/-- Make the file. Nothing is written unless its template is found. -/
def generate (generator : Generator) (store : Template.Store) :
    ExceptT Failure m WrittenFile := do
  let template ← store.load generator.templateName
  Template.renderTo template generator.bindings generator.destination

end Generator

end EntityScaffold
