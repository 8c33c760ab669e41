import EntityScaffold.Settings.Basic

/-!
Why a model or its tests could not be made.
-/

namespace EntityScaffold

inductive Failure where
  | missingArgument (name : String)
  | templateNotFound (name : String) (places : List String)
  | unreadable (path : Path)
  | unwritable (path : Path)
  /-- A settings file of the given name and size in bytes is of no use. -/
  | malformed (file : String) (size : Nat) (problem : Settings.Problem)

namespace Failure

def message : Failure → String
  | .missingArgument name => "missing required argument <" ++ name ++ ">"
  | .templateNotFound name _ => "template '" ++ name ++ "' not found"
  | .unreadable path => "failed to read '" ++ path.text ++ "'"
  | .unwritable path => "failed to write '" ++ path.text ++ "'"
  | .malformed file _ _ => "failed to parse " ++ file

/-- The short name of the failure's kind. -/
def code : Failure → String
  | .missingArgument _ => "forge::missing_argument"
  | .templateNotFound _ _ => "forge::template_not_found"
  | .unreadable _ | .unwritable _ => "forge::io"
  | .malformed _ _ _ => "forge::config_parse"

def help? : Failure → Option String
  | .missingArgument _ =>
    some "pass the entity name first, e.g. 'forge model post title:string viewCount:int'"
  | .templateNotFound _ places =>
    some ("looked in " ++ " and ".intercalate places ++
      "; run 'forge init' to eject the built-in templates")
  | .unwritable _ => some "check that the output directory is writable"
  | .unreadable _ | .malformed _ _ _ => none

end Failure

def Settings.parseFile (file content : String) : Except Failure Settings :=
  (Settings.parse content).mapError fun problem =>
    .malformed file content.utf8ByteSize problem

end EntityScaffold
