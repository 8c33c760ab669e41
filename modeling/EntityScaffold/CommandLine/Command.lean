import EntityScaffold.CommandLine.Arguments
import EntityScaffold.Project

/-!
The commands, how they are read from a command line, and running them.
-/

namespace EntityScaffold.CommandLine

structure ProjectOptions where
  root : Path := ⟨"."⟩
  config : Option Path := none
  templates : Option Path := none
  deriving DecidableEq, Repr

inductive Command where
  | model (words : List String) (project : ProjectOptions) (dryRun : Bool)
  | tests (name : String) (dir : Option Path) (project : ProjectOptions) (dryRun : Bool)
  | setup (root : Path) (dir : Option Path)
  /-- Completions for a shell. The shells are known; scripts for them are not part of this. -/
  | completions
  | help
  | version
  deriving DecidableEq, Repr

namespace Command

/-- The shells that completions can be asked for. -/
def shells : List String := ["bash", "elvish", "fish", "powershell", "zsh"]

def modelAccepts : Accepts :=
  { paths := [.output, .config, .templates], dryRun := true }

def testsAccepts : Accepts :=
  { paths := [.output, .config, .templates, .dir], dryRun := true, maxWords := some 1 }

def setupAccepts : Accepts := { paths := [.output, .dir], maxWords := some 0 }

def completionsAccepts : Accepts := { maxWords := some 1, choices := some shells }

def names : List String := ["model", "tests", "init", "completions", "help"]

def projectOptions (arguments : Arguments) : ProjectOptions where
  root := (arguments.path? .output).getD ⟨"."⟩
  config := arguments.path? .config
  templates := arguments.path? .templates

def ofModel (arguments : Arguments) : Option Command :=
  some (.model arguments.words (projectOptions arguments) arguments.dryRun)

def ofTests (arguments : Arguments) : Option Command :=
  match arguments.words with
  | [name] =>
    some (.tests name (arguments.path? .dir) (projectOptions arguments) arguments.dryRun)
  | _ => none

def ofSetup (arguments : Arguments) : Option Command :=
  some (.setup ((arguments.path? .output).getD ⟨"."⟩) (arguments.path? .dir))

def ofCompletions (arguments : Arguments) : Option Command :=
  match arguments.words with
  | [_] => some .completions
  | _ => none

def readWith (accepts : Accepts) (make : Arguments → Option Command) (args : List String) :
    Option Command := do
  let (arguments, helpAsked) ← Arguments.read? accepts {} args
  if helpAsked then some .help else make arguments

/-- Read a command from a command line; `none` is wrong usage. -/
def parse? : List String → Option Command
  | [] => none
  | name :: args =>
    match name.toList with
    | '-' :: '-' :: option =>
      if option = "version".toList then some .version
      else if option = "help".toList then some .help
      else none
    | '-' :: 'V' :: _ => some .version
    | '-' :: 'h' :: _ => some .help
    | _ =>
      match name with
      | "model" => readWith modelAccepts ofModel args
      | "tests" => readWith testsAccepts ofTests args
      | "init" => readWith setupAccepts ofSetup args
      | "completions" => readWith completionsAccepts ofCompletions args
      | "help" =>
        match args with
        | [] => some .help
        | [topic] => if topic ∈ names then some .help else none
        | _ => none
      | _ => none

end Command

/-- What a command leaves behind for its caller. -/
structure Outcome where
  status : Nat := 0
  output : String := ""
  warnings : String := ""
  /-- What went wrong, and the short name of its kind if it has one. -/
  error : Option (String × Option String) := none
  deriving DecidableEq, Repr

namespace Outcome

def usage : Outcome := { status := 2 }

def ofItems (items : List ReportItem) : Outcome where
  output := String.join (items.map ReportItem.shown)
  warnings := String.join (items.map ReportItem.warned)

def ofFailure (failure : Failure) : Outcome where
  status := 1
  error := some (failure.message, some failure.code)

def ofSetupFailure (failure : Project.SetupFailure) : Outcome where
  status := 1
  error := some (failure.message, none)

/-- The lines among the warnings that begin one. A warning about a word with line ends in it goes
on over lines that are left out here. -/
def warningLines (outcome : Outcome) : List String :=
  (Text.endedLines outcome.warnings).filter fun line => "warning: ".isPrefixOf line

end Outcome

namespace Command

variable {m : Type → Type} [Monad m] [Files m]

def openProject (options : ProjectOptions) : ExceptT Failure m Project :=
  Project.openAt options.root options.config options.templates

/-- Make a model from the words of a command line. They are looked at before the project is. -/
def runModel (words : List String) (options : ProjectOptions) (dryRun : Bool) :
    ExceptT Failure m GenerationReport := do
  let request ← Request.ofArgs words
  let project ← openProject options
  project.model request dryRun

def runTests (name : String) (dir : Option Path) (options : ProjectOptions) (dryRun : Bool) :
    ExceptT Failure m GenerationReport := do
  let project ← openProject options
  project.tests ⟨name⟩ dir dryRun

def report (made : ExceptT Failure m GenerationReport) : m Outcome := do
  match ← made.run with
  | .ok report => return .ofItems report.items
  | .error failure => return .ofFailure failure

def usageText : String := "Usage: forge <model|tests|init|completions|help> [ARGS]\n"

def run : Command → m Outcome
  | .model words options dryRun => report (runModel words options dryRun)
  | .tests name dir options dryRun => report (runTests name dir options dryRun)
  | .setup root dir => do
    match ← (Project.setup root dir).run with
    | .ok report => return .ofItems report.items
    | .error failure => return .ofSetupFailure failure
  | .completions => return {}
  | .help => return { output := usageText }
  | .version => return { output := "forge 0.1.0\n" }

end Command

def run {m : Type → Type} [Monad m] [Files m] (args : List String) : m Outcome :=
  match Command.parse? args with
  | some command => command.run
  | none => return .usage

end EntityScaffold.CommandLine
