import EntityScaffold.CommandLine.Command

/-!
The command line program, on the files of the machine it runs on.
-/

namespace EntityScaffold.CommandLine

def pathError : IO.Error → PathError
  | .noFileOrDirectory _ _ _ => .notFound
  | .inappropriateType _ _ _ => .notDirectory
  | _ => .unusable

/-- Run an operation and keep the reason if it fails. -/
def attempt {α : Type} (action : IO α) : IO (Except PathError α) := do
  try
    return .ok (← action)
  catch problem =>
    return .error (pathError problem)

instance : Files IO where
  present path := do
    return (← attempt (IO.FS.realPath ⟨path.text⟩)).isOk
  readText path := attempt (IO.FS.readFile ⟨path.text⟩)
  writeText path text := attempt do
    let folder := path.folder.text
    if folder != "" then IO.FS.createDirAll ⟨folder⟩
    IO.FS.writeFile ⟨path.text⟩ text

end EntityScaffold.CommandLine

open EntityScaffold.CommandLine in
def main (args : List String) : IO UInt32 := do
  let outcome ← EntityScaffold.CommandLine.run (m := IO) args
  IO.print outcome.output
  IO.eprint outcome.warnings
  match outcome.error with
  | some (message, _) => IO.eprintln ("error: " ++ message)
  | none => if outcome.status == 2 then IO.eprint Command.usageText
  return outcome.status.toUInt32
