import EntityScaffold.Project
import EntityScaffold.Proofs.Scaffold

/-!
Opening a project only reads: it finds the settings in a file, or the default ones. What is made in
a project goes where its layout says, and nothing is made in a dry run.
-/

namespace EntityScaffold

variable {fs : FileSystem}

namespace Settings

/-- The settings that a file holds. -/
def inFile (path : Path) (fs : FileSystem) : Except Failure Settings :=
  match fs.readText path with
  | .ok content => parseFile path.text content
  | .error _ => .error (.unreadable path)

/-- The settings that a file holds, or the default ones where there is no such file. -/
def inFileOrDefault (path : Path) (fs : FileSystem) : Except Failure Settings :=
  match fs.readText path with
  | .ok content => parseFile path.text content
  | .error .notFound => .ok {}
  | .error _ => .error (.unreadable path)

theorem run_ofFile (path : Path) (fs : FileSystem) :
    (ofFile path : ExceptT Failure (StateM FileSystem) Settings).run fs =
      (inFile path fs, fs) := by
  rw [ofFile, run_bind, run_lift, inFile]
  simp only [Files.readText]
  cases fs.readText path with
  | error problem => rfl
  | ok content =>
    dsimp only
    cases parseFile path.text content <;> rfl

theorem run_ofFileOrDefault (path : Path) (fs : FileSystem) :
    (ofFileOrDefault path : ExceptT Failure (StateM FileSystem) Settings).run fs =
      (inFileOrDefault path fs, fs) := by
  rw [ofFileOrDefault, run_bind, run_lift, inFileOrDefault]
  simp only [Files.readText]
  cases fs.readText path with
  | error problem => cases problem <;> rfl
  | ok content =>
    dsimp only
    cases parseFile path.text content <;> rfl

end Settings

namespace Project

/-- The project that is opened in a file system. -/
def opened (root : Path) (config templates : Option Path) (fs : FileSystem) :
    Except Failure Project :=
  ((openAt root config templates : ExceptT Failure (StateM FileSystem) Project).run fs).1

theorem run_openAt_eq (root : Path) (config templates : Option Path) (fs : FileSystem) :
    (openAt root config templates : ExceptT Failure (StateM FileSystem) Project).run fs =
      ((match config with
        | some path => Settings.inFile path fs
        | none => Settings.inFileOrDefault (root.join Settings.fileName) fs).map fun settings =>
        ⟨root, settings, { directory := (templates <|> settings.templatesDir).map root.join }⟩,
        fs) := by
  unfold openAt
  cases config with
  | some path =>
    dsimp only
    rw [run_bind, Settings.run_ofFile]
    cases Settings.inFile path fs <;> rfl
  | none =>
    dsimp only
    rw [run_bind, Settings.run_ofFileOrDefault]
    cases Settings.inFileOrDefault (root.join Settings.fileName) fs <;> rfl

/-- Opening a project changes nothing. -/
theorem run_openAt (root : Path) (config templates : Option Path) (fs : FileSystem) :
    (openAt root config templates : ExceptT Failure (StateM FileSystem) Project).run fs =
      (opened root config templates fs, fs) := by
  rw [opened, run_openAt_eq]

/-- Without a settings file of another name, the root's own one counts. -/
theorem opened_own (root : Path) (templates : Option Path) (fs : FileSystem) :
    opened root none templates fs =
      (Settings.inFileOrDefault (root.join Settings.fileName) fs).map fun settings =>
        ⟨root, settings, { directory := (templates <|> settings.templatesDir).map root.join }⟩ := by
  rw [opened, run_openAt_eq]

end Project

/-! ### Making sources -/

/-- A failure that comes before anything is made. -/
def Failure.Early (failure : Failure) : Prop :=
  failure.code = "forge::missing_argument" ∨ failure.code = "forge::config_parse"

theorem Failure.not_early {failure : Failure}
    (h : failure.code = "forge::io" ∨ failure.code = "forge::template_not_found") :
    ¬ failure.Early := by
  rcases h with h | h
  · rw [Early, h]
    decide
  · rw [Early, h]
    decide

/-- A run that makes files only where it is to, and none if it is dry or fails early. -/
structure Careful {α : Type} (paths : List Path) (dry : Prop) (fs : FileSystem)
    (result : Except Failure α × FileSystem) : Prop where
  within : FileSystem.Within paths fs result.2
  dry : dry → result.2 = fs
  early : ∀ failure, result.1 = .error failure → failure.Early → result.2 = fs

namespace Careful

variable {α β : Type} {paths : List Path} {dry : Prop}

theorem unchanged (result : Except Failure α) : Careful paths dry fs (result, fs) :=
  ⟨.refl fs, fun _ => rfl, fun _ _ _ => rfl⟩

theorem map {x : ExceptT Failure (StateM FileSystem) α} (h : Careful paths dry fs (x.run fs))
    (f : α → β) : Careful paths dry fs ((f <$> x).run fs) := by
  rw [run_map]
  refine ⟨h.within, h.dry, fun failure hr => h.early failure ?_⟩
  generalize (x.run fs).1 = result at hr
  cases result with
  | error other =>
    cases hr
    rfl
  | ok value => cases hr

end Careful

theorem Generator.careful_generate (generator : Generator) (store : Template.Store)
    (fs : FileSystem) :
    Careful [generator.destination] False fs
      ((generator.generate store : ExceptT Failure (StateM FileSystem) WrittenFile).run fs) := by
  change Careful _ _ _ (generator.attempt store fs)
  rcases hrun : generator.attempt store fs with ⟨result, after⟩
  refine ⟨Generator.within_attempt hrun, False.elim, ?_⟩
  rintro failure rfl he
  rcases Generator.attempt_error hrun with ⟨-, hsame⟩ | ⟨rfl, -⟩
  · exact hsame
  · exact absurd he (Failure.not_early (.inl rfl))

theorem Scaffold.careful_run (scaffold : Scaffold) (request : Request) (fs : FileSystem) :
    Careful [(scaffold.model request).destination, (scaffold.tests request).destination] False fs
      ((scaffold.run request : ExceptT Failure (StateM FileSystem) ScaffoldedFiles).run fs) := by
  change Careful _ _ _ (scaffold.attempt request fs)
  have hends := scaffold.attempt_ends request fs
  refine ⟨scaffold.within_attempt request fs, False.elim, fun failure hf he => ?_⟩
  generalize scaffold.attempt request fs = result at hends hf
  cases hends with
  | inModel model =>
    have hmodel := (scaffold.model request).careful_generate scaffold.store fs
    change Careful _ _ _ ((scaffold.model request).attempt scaffold.store fs) at hmodel
    rw [model] at hmodel
    cases hf
    exact hmodel.early failure rfl he
  | inTests _ tests =>
    cases hf
    rcases (tests_failure tests).2 with rfl | ⟨dir, -, rfl⟩ | rfl
    · exact absurd he (Failure.not_early (.inr rfl))
    · exact absurd he (Failure.not_early (.inl rfl))
    · exact absurd he (Failure.not_early (.inl rfl))
  | complete => cases hf

namespace Project

/-- Where the files of a request go. -/
def modelPaths (project : Project) (request : Request) : List Path :=
  let layout := project.settings.layout
  let name := request.entity.className
  [layout.modelPath project.root name, layout.testsPath project.root name]

/-- Where the tests of an entity go that are made alone. -/
def testsPath (project : Project) (entity : Entity) (dir : Option Path) : Path :=
  let layout := project.settings.layout
  layout.testsPathIn (dir.getD layout.testsDir) project.root entity.className

theorem careful_model (project : Project) (request : Request) (dryRun : Bool) (fs : FileSystem) :
    Careful (project.modelPaths request) dryRun fs
      ((project.model request dryRun : ExceptT Failure (StateM FileSystem) GenerationReport).run
        fs) := by
  simp only [model, bind_pure_comp]
  refine Careful.map ?_ _
  unfold modelFiles
  cases dryRun with
  | false =>
    simp only [Bool.false_eq_true, if_false]
    exact (project.scaffold.careful_run request fs).map _
  | true =>
    refine Careful.map ?_ _
    rw [Scaffold.run_preview]
    exact .unchanged _

theorem careful_tests (project : Project) (entity : Entity) (dir : Option Path) (dryRun : Bool)
    (fs : FileSystem) :
    Careful [project.testsPath entity dir] dryRun fs
      ((project.tests entity dir dryRun :
        ExceptT Failure (StateM FileSystem) GenerationReport).run fs) := by
  simp only [tests, bind_pure_comp]
  refine Careful.map ?_ _
  unfold testsFiles
  cases dryRun with
  | false =>
    simp only [Bool.false_eq_true, if_false]
    exact ((Generator.tests project.settings.layout project.root entity dir).careful_generate
      project.store fs).map _
  | true =>
    refine Careful.map ?_ _
    rw [Generator.run_preview]
    exact .unchanged _

end Project

end EntityScaffold
