import EntityScaffold.Proofs.Generation
import EntityScaffold.Proofs.ModelSource

/-!
The source of the tests, line by line, and what it has in common with the model's source: both
spell the class and its table in the same way.
-/

namespace EntityScaffold

namespace Template

/-- The lines of the tests of a class. -/
def testsSource (className variableName tableName : String) : List String :=
  ["import XCTest",
    "import Testing",
    "import HTTP",
    "@testable import Vapor",
    "@testable import App",
    "",
    "class " ++ className ++ "Tests: TestCase \x7b",
    "    let drop = try! Droplet.testable()",
    "",
    "    func test" ++ className ++ "Entity() throws \x7b",
    "        let " ++ variableName ++ "Type = " ++ className ++ ".self",
    "        XCTAssertEqual(" ++ variableName ++ "Type.entity, \"" ++ tableName ++ "\")",
    "    \x7d",
    "\x7d",
    "",
    "// MARK: Manifest",
    "",
    "extension " ++ className ++ "Tests \x7b",
    "    static let allTests = [",
    "        (\"test" ++ className ++ "Entity\", test" ++ className ++ "Entity),",
    "    ]",
    "\x7d"]

/-- The lines that the source of a model begins with. -/
def modelOpening (className tableName : String) : List String :=
  ["import Vapor",
    "import FluentProvider",
    "import HTTP",
    "",
    "final class " ++ className ++ ": Model \x7b",
    "    static let entity = \"" ++ tableName ++ "\""]

/-- The template of the tests is their source for a class that is called as its token. -/
theorem testsSource_literals :
    testsSource Token.className.literal Token.variableName.literal Token.tableName.literal =
      testsLines := by
  decide +kernel

theorem modelOpening_literals :
    modelOpening Token.className.literal Token.tableName.literal ++ modelLines.drop 6 =
      modelLines := by
  decide +kernel

namespace Bindings

variable {bindings : Bindings} {entity : Entity}

/-- The tokens for the spellings of an entity have their values. -/
structure Names (bindings : Bindings) (entity : Entity) : Prop where
  className : bindings.get? .className = some entity.className
  variableName : bindings.get? .variableName = some entity.variableName
  tableName : bindings.get? .tableName = some entity.tableName

/-- Every token of the tests is found, though letters stand on both sides of it. -/
theorem Names.substitute_tests (h : bindings.Names entity) :
    testsLines.map bindings.substitute =
      testsSource entity.className entity.variableName entity.tableName := by
  have hc {text : String} (hs : '_' ∉ text.toList) := bindings.substitute_token hs h.className
  have hv {text : String} (hs : '_' ∉ text.toList) := bindings.substitute_token hs h.variableName
  have ht {text : String} (hs : '_' ∉ text.toList) := bindings.substitute_token hs h.tableName
  rw [← testsSource_literals]
  simp [testsSource, String.append_assoc, hc, hv, ht, substitute_plain]

theorem Names.substitute_opening (h : bindings.Names entity) :
    modelLines.map bindings.substitute =
      modelOpening entity.className entity.tableName ++
        (modelLines.drop 6).map bindings.substitute := by
  have hc {text : String} (hs : '_' ∉ text.toList) := bindings.substitute_token hs h.className
  have ht {text : String} (hs : '_' ∉ text.toList) := bindings.substitute_token hs h.tableName
  conv_lhs => rw [← modelOpening_literals]
  rw [List.map_append]
  simp [modelOpening, String.append_assoc, hc, ht, substitute_plain]

end Bindings

end Template

namespace Generator

variable (layout : Layout) (root : Path) (entity : Entity) (fields : List Field) (indent : Indent)
  (dir : Option Path)

theorem names_model : (model layout root entity fields indent).bindings.Names entity where
  className := get?_model layout root entity fields indent .className
  variableName := get?_model layout root entity fields indent .variableName
  tableName := get?_model layout root entity fields indent .tableName

theorem names_tests : (tests layout root entity dir).bindings.Names entity where
  className := by simp [tests, Entity.bindings, Template.Bindings.get?_bind]
  variableName := by simp [tests, Entity.bindings, Template.Bindings.get?_bind]
  tableName := by simp [tests, Entity.bindings, Template.Bindings.get?_bind]

/-- What is shown of a generator, when its template is a built-in one. -/
theorem run_preview_builtin {generator : Generator} (lines : List String)
    (h : Template.builtin.lookup generator.templateName = some (Template.ofLines lines))
    (fs : FileSystem) :
    (generator.preview {} : ExceptT Failure (StateM FileSystem) Preview).run fs =
      (.ok ⟨generator.destination, Template.ofLines (lines.map generator.bindings.substitute)⟩,
        fs) := by
  rw [run_preview, shown, Template.Store.loaded_default h, ← Template.substitute_ofLines]
  rfl

/-- The source of a model and that of its tests speak of one class and one table, however the
entity is called: the model opens with them, and the tests are the lines of their template with
the names in the place of the tokens. The files are called after the class. -/
theorem tests_name_model (fs : FileSystem) :
    (∃ rest,
      ((model layout root entity fields indent).preview {} :
        ExceptT Failure (StateM FileSystem) Preview).run fs =
        (.ok ⟨(root.join layout.modelsDir).join ⟨entity.className ++ "." ++ layout.extension⟩,
          Template.ofLines
            (Template.modelOpening entity.className entity.tableName ++ rest)⟩, fs)) ∧
    ((tests layout root entity dir).preview {} :
        ExceptT Failure (StateM FileSystem) Preview).run fs =
      (.ok ⟨(root.join (dir.getD layout.testsDir)).join
            ⟨entity.className ++ "Tests." ++ layout.extension⟩,
          Template.ofLines
            (Template.testsSource entity.className entity.variableName entity.tableName)⟩, fs) ∧
    Template.testsLines =
      Template.testsSource Template.Token.className.literal Template.Token.variableName.literal
        Template.Token.tableName.literal := by
  let rest := (Template.modelLines.drop 6).map
    (model layout root entity fields indent).bindings.substitute
  refine ⟨⟨rest, ?_⟩, ?_, Template.testsSource_literals.symm⟩
  · rw [run_preview_builtin Template.modelLines rfl,
      (names_model layout root entity fields indent).substitute_opening]
    rfl
  · rw [run_preview_builtin Template.testsLines rfl,
      (names_tests layout root entity dir).substitute_tests]
    rfl

end Generator

end EntityScaffold
