import EntityScaffold.Proofs.CommandLine.Arguments
import EntityScaffold.Proofs.Project
import EntityScaffold.Proofs.Setup

/-!
Running commands one after another. Each one adds to the file system and takes nothing away, and
what it adds is for the files it is to make.
-/

namespace EntityScaffold.CommandLine

variable {fs : FileSystem} {args : List String} {command : Command}

namespace Command

/-- The files that a command is to make, as far as it comes to know them. -/
def targets (fs : FileSystem) : Command → List Path
  | .model words options _ =>
    match Request.ofArgs words,
      Project.opened options.root options.config options.templates fs with
    | .ok request, .ok project => project.modelPaths request
    | _, _ => []
  | .tests name dir options _ =>
    match Project.opened options.root options.config options.templates fs with
    | .ok project => [project.testsPath ⟨name⟩ dir]
    | .error _ => []
  | .setup root dir => (Project.setupFiles root dir).map OutputFile.path
  | .completions | .help | .version => []

/-- The command is to write nothing. -/
def isDry : Command → Bool
  | .model _ _ dryRun | .tests _ _ _ dryRun => dryRun
  | .setup _ _ => false
  | .completions | .help | .version => true

/-! ### Reading a command -/

/-- A command that is made of arguments with a dry run among them, where that is accepted, is
dry. -/
def MakesDry (accepts : Accepts) (make : Arguments → Option Command) : Prop :=
  ∀ arguments command, make arguments = some command → accepts.dryRun → arguments.dryRun →
    command.isDry

theorem ofModel_isDry : MakesDry modelAccepts ofModel := by
  rintro arguments command h - hd
  cases h
  exact hd

theorem ofTests_isDry : MakesDry testsAccepts ofTests := by
  rintro arguments command h - hd
  unfold ofTests at h
  split at h <;> cases h
  exact hd

theorem ofSetup_isDry : MakesDry setupAccepts ofSetup := by
  rintro arguments command - ha -
  cases ha

theorem ofCompletions_isDry : MakesDry completionsAccepts ofCompletions := by
  rintro arguments command - ha -
  cases ha

theorem readWith_dryRun {accepts : Accepts} {make : Arguments → Option Command}
    (hm : MakesDry accepts make)
    (h : readWith accepts make args = some command) (hd : "--dry-run" ∈ optionsPart args) :
    command.isDry := by
  obtain ⟨⟨arguments, helpAsked⟩, hread, h⟩ := Option.bind_eq_some_iff.mp h
  dsimp only at h
  have hasked : Arguments.AsksDryRun accepts {} args := .inr hd
  split at h
  · cases h
    rfl
  · next hhelp =>
    obtain ⟨hdry, haccepts⟩ := (hasked.read? hread).resolve_left hhelp
    exact hm arguments command h haccepts hdry

/-- A command that is read from a command line with a dry run in it writes nothing. -/
theorem parse?_dryRun (h : parse? args = some command) (hd : "--dry-run" ∈ optionsPart args) :
    command.isDry := by
  cases args with
  | nil => cases h
  | cons name args =>
    have hargs (hname : name ≠ "--dry-run") : "--dry-run" ∈ optionsPart args :=
      (mem_optionsPart_cons.mp hd).2.resolve_left hname.symm
    unfold parse? at h
    dsimp only at h
    split at h
    · split at h
      · cases h
        rfl
      · split at h <;> cases h
        rfl
    · cases h
      rfl
    · cases h
      rfl
    · split at h
      · exact readWith_dryRun ofModel_isDry h (hargs (by decide))
      · exact readWith_dryRun ofTests_isDry h (hargs (by decide))
      · exact readWith_dryRun ofSetup_isDry h (hargs (by decide))
      · exact readWith_dryRun ofCompletions_isDry h (hargs (by decide))
      · split at h
        · cases h
          rfl
        · split at h <;> cases h
          rfl
        · cases h
      · cases h

/-! ### Running a command -/

theorem run_report (made : ExceptT Failure (StateM FileSystem) GenerationReport)
    (fs : FileSystem) :
    (report made : StateM FileSystem Outcome) fs =
      (match (made.run fs).1 with
        | .ok report => .ofItems report.items
        | .error failure => .ofFailure failure, (made.run fs).2) := by
  unfold report
  simp only [bind, StateT.bind, pure]
  rcases made.run fs with ⟨result, after⟩
  cases result <;> rfl

end Command

/-- The failure is one that comes before anything is made. -/
def Outcome.FailsEarly (outcome : Outcome) : Prop :=
  ∃ message, outcome.error = some (message, some "forge::missing_argument") ∨
    outcome.error = some (message, some "forge::config_parse")

/-- A command makes files only where it is to, and none if it is dry or fails early. -/
structure Command.Framed (command : Command) (fs : FileSystem)
    (result : Outcome × FileSystem) : Prop where
  within : FileSystem.Within (command.targets fs) fs result.2
  dry : command.isDry → result.2 = fs
  early : result.1.FailsEarly → result.2 = fs
  status : result.1.status ≠ 2

namespace Command

theorem framed_report {made : ExceptT Failure (StateM FileSystem) GenerationReport}
    (h : Careful (command.targets fs) command.isDry fs (made.run fs)) :
    command.Framed fs ((report made : StateM FileSystem Outcome) fs) := by
  rw [run_report]
  refine ⟨h.within, h.dry, ?_, ?_⟩
  · rintro ⟨message, he⟩
    cases hr : (made.run fs).1 with
    | ok report => simp [hr, Outcome.ofItems] at he
    | error failure =>
      simp only [hr, Outcome.ofFailure, Option.some.injEq, Prod.mk.injEq] at he
      exact h.early failure hr (he.imp And.right And.right)
  · dsimp only
    split
    · simp [Outcome.ofItems]
    · simp [Outcome.ofFailure]

theorem careful_runModel (words : List String) (options : ProjectOptions) (dryRun : Bool)
    (fs : FileSystem) :
    Careful ((Command.model words options dryRun).targets fs) dryRun fs
      ((runModel words options dryRun :
        ExceptT Failure (StateM FileSystem) GenerationReport).run fs) := by
  unfold runModel openProject
  rw [run_bind]
  dsimp only [targets]
  cases Request.ofArgs words with
  | error failure => exact .unchanged _
  | ok request =>
    change Careful _ _ _ (((Project.openAt options.root options.config options.templates :
      ExceptT Failure (StateM FileSystem) Project) >>= fun project =>
        project.model request dryRun).run fs)
    rw [run_bind, Project.run_openAt]
    cases Project.opened options.root options.config options.templates fs with
    | error failure => exact .unchanged _
    | ok project => exact project.careful_model request dryRun fs

theorem careful_runTests (name : String) (dir : Option Path) (options : ProjectOptions)
    (dryRun : Bool) (fs : FileSystem) :
    Careful ((Command.tests name dir options dryRun).targets fs) dryRun fs
      ((runTests name dir options dryRun :
        ExceptT Failure (StateM FileSystem) GenerationReport).run fs) := by
  unfold runTests openProject
  rw [run_bind, Project.run_openAt]
  dsimp only [targets]
  cases Project.opened options.root options.config options.templates fs with
  | error failure => exact .unchanged _
  | ok project => exact project.careful_tests ⟨name⟩ dir dryRun fs

theorem run_setup (root : Path) (dir : Option Path) (fs : FileSystem) :
    ((Command.setup root dir).run : StateM FileSystem Outcome) fs =
      (match ((Project.setup root dir : ExceptT Project.SetupFailure (StateM FileSystem)
          SetupReport).run fs).1 with
        | .ok report => .ofItems report.items
        | .error failure => .ofSetupFailure failure,
        (Project.runAll (Project.setupFiles root dir) fs).2) := by
  rw [← Project.setup_snd]
  simp only [run, bind, StateT.bind, pure]
  rcases (Project.setup root dir : ExceptT Project.SetupFailure (StateM FileSystem) _).run fs with
    ⟨result, after⟩
  cases result <;> rfl

theorem framed_setup (root : Path) (dir : Option Path) (fs : FileSystem) :
    (Command.setup root dir).Framed fs
      (((Command.setup root dir).run : StateM FileSystem Outcome) fs) := by
  rw [run_setup]
  refine ⟨Project.within_runAll _ fs, ?_, ?_, ?_⟩
  · intro hd
    cases hd
  · rintro ⟨message, he⟩
    dsimp only at he
    split at he <;> simp [Outcome.ofItems, Outcome.ofSetupFailure] at he
  · dsimp only
    split
    · simp [Outcome.ofItems]
    · simp [Outcome.ofSetupFailure]

theorem framed_run (command : Command) (fs : FileSystem) :
    command.Framed fs ((command.run : StateM FileSystem Outcome) fs) := by
  cases command with
  | model words options dryRun => exact framed_report (careful_runModel words options dryRun fs)
  | tests name dir options dryRun =>
    exact framed_report (careful_runTests name dir options dryRun fs)
  | setup root dir => exact framed_setup root dir fs
  | completions => exact ⟨.refl fs, fun _ => rfl, fun _ => rfl, Nat.zero_ne_add_one 1⟩
  | help => exact ⟨.refl fs, fun _ => rfl, fun _ => rfl, Nat.zero_ne_add_one 1⟩
  | version => exact ⟨.refl fs, fun _ => rfl, fun _ => rfl, Nat.zero_ne_add_one 1⟩

end Command

/-! ### Running commands -/

/-- What comes of a command line. -/
def perform (args : List String) (fs : FileSystem) : Outcome × FileSystem :=
  (run args : StateM FileSystem Outcome) fs

/-- The file system that command lines leave, one after another. -/
def leave (fs : FileSystem) (invocations : List (List String)) : FileSystem :=
  invocations.foldl (fun fs args => (perform args fs).2) fs

/-- The files that a command line is to make. -/
def targets (args : List String) (fs : FileSystem) : List Path :=
  match Command.parse? args with
  | some command => command.targets fs
  | none => []

theorem within_perform (args : List String) (fs : FileSystem) :
    FileSystem.Within (targets args fs) fs (perform args fs).2 := by
  unfold perform run targets
  cases Command.parse? args with
  | none => exact .refl fs
  | some command => exact (command.framed_run fs).within

/-- A command line of wrong usage, with a dry run in it, or that fails early changes nothing. -/
theorem perform_unchanged
    (h : "--dry-run" ∈ optionsPart args ∨ (perform args fs).1.status = 2 ∨
      (perform args fs).1.FailsEarly) : (perform args fs).2 = fs := by
  unfold perform run at h ⊢
  cases hp : Command.parse? args with
  | none => rfl
  | some command =>
    have hframed := command.framed_run fs
    rw [hp] at h
    rcases h with hd | hs | he
    · exact hframed.dry (Command.parse?_dryRun hp hd)
    · exact absurd hs hframed.status
    · exact hframed.early he

theorem keeps_leave (fs : FileSystem) (invocations : List (List String)) :
    FileSystem.Keeps fs (leave fs invocations) := by
  induction invocations generalizing fs with
  | nil => exact .refl fs
  | cons args rest ih => exact (within_perform args fs).keeps.trans (ih (perform args fs).2)

/-- However many commands were run before, nothing that exists is taken away, and a command changes
and adds only its own files and the folders on their ways. It changes nothing if it is to write
nothing, is used wrongly or fails early. -/
theorem invocations_confined (fs : FileSystem) (earlier : List (List String))
    (args : List String) :
    let before := leave fs earlier
    let outcome := (perform args before).1
    let after := (perform args before).2
    FileSystem.Keeps fs after ∧ FileSystem.Keeps before after ∧
      (∀ place content, after.node? place = some (.file content) →
        before.node? place = some (.file content) ∨
          ∃ path ∈ targets args before, place = before.destination path) ∧
      (∀ place, after.node? place = some .directory →
        before.node? place = some .directory ∨
          ∃ path ∈ targets args before, place ∈ before.way path) ∧
      ("--dry-run" ∈ optionsPart args ∨ outcome.status = 2 ∨ outcome.FailsEarly →
        after = before) := by
  intro before outcome after
  have hwithin : FileSystem.Within (targets args before) before after := within_perform args before
  refine ⟨(keeps_leave fs earlier).trans hwithin.keeps, hwithin.keeps, fun place content hf => ?_,
    fun place hd => ?_, perform_unchanged⟩
  · exact hwithin.file_before hf
  · exact (hwithin.directory_before hd).imp_right And.right

/-- A dry run after a project was set up and a model was made. -/
theorem invocations_confined_dry_run :
    let before := leave .empty [["init"], ["model", "post", "title:string"]]
    (perform ["model", "user", "--dry-run"] before).2 = before := by
  intro before
  exact (invocations_confined .empty [["init"], ["model", "post", "title:string"]]
    ["model", "user", "--dry-run"]).2.2.2.2 (.inl (by decide))

end EntityScaffold.CommandLine
