import EntityScaffold.Text.Split

/-!
Paths as they are written. Nothing is tidied up: `.`, `..` and doubled slashes stay in the text,
and what they mean is decided only when a file system follows the path.
-/

namespace EntityScaffold

structure Path where
  text : String
  deriving DecidableEq, Repr

namespace Path

/-- An absolute path starts at the root. -/
def isAbsolute (path : Path) : Bool := path.text.toList.head? == some '/'

/-- Go on from `base`. An absolute path replaces it; otherwise exactly one slash is put between
them where there is none yet. -/
def join (base rest : Path) : Path :=
  if rest.isAbsolute then rest
  else if base.text = "" ∨ base.text.toList.getLast? = some '/' then ⟨base.text ++ rest.text⟩
  else ⟨base.text ++ "/" ++ rest.text⟩

/-- The texts between the slashes, empty ones included. -/
def segments (path : Path) : List String := Text.splitOn '/' path.text

/-- An empty segment, like a lone dot, stays where it is. -/
def isIdle (segment : String) : Bool := segment == "" || segment == "."

/-- The path up to its last name. Slashes and lone dots at the end of either count for nothing;
where no name stands before the last one, the folder is the empty path. -/
def folder (path : Path) : Path :=
  let named := path.segments.reverse.dropWhile isIdle
  ⟨"/".intercalate ((named.drop 1).dropWhile isIdle).reverse⟩

def maxNameBytes : Nat := 255

def maxPathBytes : Nat := 4095

end Path

end EntityScaffold
