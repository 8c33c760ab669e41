import EntityScaffold.FileSystem.Basic

/-!
What differs between two states of a file system, below one directory.
-/

namespace EntityScaffold.FileSystem

/-- The text of a place below a directory; a directory's text ends in a slash. -/
def nameBelow (top : Location) (place : Location) (node : Node) : String :=
  let path := "/".intercalate (place.take (place.length - top.length)).reverse
  match node with
  | .directory => path ++ "/"
  | .file _ => path

/-- All that lies below a directory, with the place's text. -/
def below (fs : FileSystem) (top : Location) : List (String × Location × Node) :=
  (fs.nodes.toList.filter fun (place, _) =>
    top.isSuffixOf place && decide (top.length < place.length)).map fun (place, node) =>
      (nameBelow top place node, place, node)

/-- The new directories, and the files that are new or have another content than before. -/
def changed (before after : FileSystem) (top : Location) : List (String × Node) :=
  (after.below top).filterMap fun (name, place, node) =>
    if before.node? place = some node then none else some (name, node)

/-- What was there before and is no longer there as what it was, in ascending order. -/
def removed (before after : FileSystem) (top : Location) : List String :=
  let gone := (before.below top).filterMap fun (name, place, node) =>
    match node, after.node? place with
    | .directory, some .directory => none
    | .file _, some (.file _) => none
    | _, _ => some name
  gone.mergeSort fun left right => decide (left ≤ right)

end EntityScaffold.FileSystem
