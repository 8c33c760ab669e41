import EntityScaffold.Path

/-!
Where generated sources go and what they are called.
-/

namespace EntityScaffold

/-- The directories of models and tests, and the file extension of both, without its dot. -/
structure Layout where
  modelsDir : Path := ⟨"Sources/App/Models"⟩
  testsDir : Path := ⟨"Tests/AppTests/Models"⟩
  extension : String := "swift"
  deriving DecidableEq, Repr

namespace Layout

def modelFileName (layout : Layout) (className : String) : String :=
  className ++ "." ++ layout.extension

def testsFileName (layout : Layout) (className : String) : String :=
  className ++ "Tests." ++ layout.extension

def modelPath (layout : Layout) (root : Path) (className : String) : Path :=
  (root.join layout.modelsDir).join ⟨layout.modelFileName className⟩

/-- The path of the tests in a directory under a project's root. -/
def testsPathIn (layout : Layout) (dir root : Path) (className : String) : Path :=
  (root.join dir).join ⟨layout.testsFileName className⟩

def testsPath (layout : Layout) (root : Path) (className : String) : Path :=
  layout.testsPathIn layout.testsDir root className

end Layout

end EntityScaffold
