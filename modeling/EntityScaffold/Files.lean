import EntityScaffold.FileSystem.Write

/-!
The operations that the program needs of a file system, and writing an output file with them.
-/

namespace EntityScaffold

/-- A computation that can look at files and write them. -/
class Files (m : Type → Type) where
  present : Path → m Bool
  readText : Path → m (Except PathError String)
  /-- Write a file, its missing folders first. -/
  writeText : Path → String → m (Except PathError Unit)

/-- The operations on a file system that is the state of a computation. -/
instance : Files (StateM FileSystem) where
  present path := fun fs => (fs.present path, fs)
  readText path := fun fs => (fs.readText path, fs)
  writeText path text := fun fs => fs.write path (.text text)

/-- What became of a file that was to be written. -/
inductive Written where
  | created
  | overwritten
  | skipped
  deriving DecidableEq, Repr

inductive Overwrite where
  | always
  | ifMissing
  deriving DecidableEq, Repr

structure OutputFile where
  path : Path
  content : String
  overwrite : Overwrite := .always
  deriving DecidableEq, Repr

/-- Write a file unless it exists and is to be kept. Whether it exists is asked before any folder
is made. -/
def OutputFile.write {m : Type → Type} [Monad m] [Files m] (file : OutputFile) :
    m (Except PathError Written) := do
  let existed ← Files.present file.path
  if existed && file.overwrite == .ifMissing then return .ok .skipped
  match ← Files.writeText file.path file.content with
  | .error problem => return .error problem
  | .ok () => return .ok (if existed then .overwritten else .created)

end EntityScaffold
