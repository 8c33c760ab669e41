import EntityScaffold.Path

/-!
The arguments of a command: words and options in any order. An option with a value has five
spellings (`-oX`, `-o=X`, `-o X`, `--output=X`, `--output X`).
-/

namespace EntityScaffold.CommandLine

inductive PathOption where
  | output
  | config
  | templates
  | dir
  deriving DecidableEq, Repr

namespace PathOption

def letter : PathOption → Char
  | .output => 'o'
  | .config => 'c'
  | .templates => 't'
  | .dir => 'd'

def name : PathOption → String
  | .output => "output"
  | .config => "config"
  | .templates => "templates"
  | .dir => "dir"

end PathOption

structure Accepts where
  paths : List PathOption := []
  dryRun : Bool := false
  /-- The most words, if there is a limit. -/
  maxWords : Option Nat := none
  /-- The words to choose from, if not every word will do. -/
  choices : Option (List String) := none
  deriving DecidableEq, Repr

inductive Argument where
  | word
  /-- From here on all arguments are words. -/
  | endOfOptions
  | help
  | dryRun
  /-- An option, and its value if the same argument holds it. -/
  | path (option : PathOption) (value : Option String)
  | unknown
  deriving DecidableEq, Repr

/-- An argument behind two dashes. A value follows the first equals sign, if there is one. -/
def longArgument (accepts : Accepts) (body : List Char) : Argument :=
  let name := body.takeWhile (· ≠ '=')
  match accepts.paths.find? fun option => option.name.toList = name with
  | some option => .path option ((body.dropWhile (· ≠ '=')).tail?.map .ofList)
  | none =>
    if body = "help".toList then .help
    else if accepts.dryRun ∧ body = "dry-run".toList then .dryRun
    else .unknown

/-- A value in the same argument as the letter of its option. One equals sign is left out. -/
def attached : List Char → Option String
  | [] => none
  | '=' :: value => some (.ofList value)
  | value => some (.ofList value)

def shortArgument (accepts : Accepts) (letter : Char) (body : List Char) : Argument :=
  match accepts.paths.find? fun option => option.letter = letter with
  | some option => .path option (attached body)
  | none => if letter = 'h' then .help else .unknown

/-- Tell what an argument is. A lone dash and the empty text are words. -/
def argument (accepts : Accepts) (text : String) : Argument :=
  match text.toList with
  | ['-', '-'] => .endOfOptions
  | '-' :: '-' :: body => longArgument accepts body
  | '-' :: letter :: body => shortArgument accepts letter body
  | _ => .word

/-- What has been read of a command's arguments. -/
structure Arguments where
  words : List String := []
  paths : List (PathOption × Path) := []
  dryRun : Bool := false
  deriving DecidableEq, Repr

namespace Arguments

def path? (arguments : Arguments) (option : PathOption) : Option Path :=
  arguments.paths.lookup option

/-- Give an option its value. It has at most one, and not the empty one. -/
def give? (arguments : Arguments) (option : PathOption) (value : String) : Option Arguments :=
  if value = "" ∨ (arguments.path? option).isSome then none
  else some { arguments with paths := arguments.paths ++ [(option, ⟨value⟩)] }

def takes (accepts : Accepts) (words : List String) : Bool :=
  accepts.maxWords.all (fun limit => words.length ≤ limit) &&
    accepts.choices.all fun choices => words.all choices.contains

def addWords? (arguments : Arguments) (accepts : Accepts) (words : List String) :
    Option Arguments :=
  let words := arguments.words ++ words
  if takes accepts words then some { arguments with words } else none

/-- A value in an argument of its own does not look like an option. -/
def isValue (text : String) : Bool := text.toList.head? != some '-' || text == "-"

/-- Read arguments; `none` is wrong usage. The second component tells whether help is asked for,
which ends the reading. -/
def read? (accepts : Accepts) : Arguments → List String → Option (Arguments × Bool)
  | arguments, [] => some (arguments, false)
  | arguments, text :: rest =>
    match argument accepts text with
    | .word =>
      (arguments.addWords? accepts [text]).bind fun arguments => read? accepts arguments rest
    | .endOfOptions => (arguments.addWords? accepts rest).map fun arguments => (arguments, false)
    | .help => some (arguments, true)
    | .dryRun =>
      if arguments.dryRun then none else read? accepts { arguments with dryRun := true } rest
    | .path option (some value) =>
      (arguments.give? option value).bind fun arguments => read? accepts arguments rest
    | .path option none =>
      match rest with
      | [] => none
      | value :: rest =>
        if isValue value then
          (arguments.give? option value).bind fun arguments => read? accepts arguments rest
        else none
    | .unknown => none

end Arguments

end EntityScaffold.CommandLine
