import EntityScaffold.Text.Alphanumeric
import EntityScaffold.Text.Case

/-!
The spellings of a name: with a capital or a small first letter, in words set apart by
underscores, and in the plural.
-/

namespace EntityScaffold.Naming
open Text

/-- The name with a capital first letter; the rest stays as it is. -/
def capitalizeFirst (name : String) : String :=
  match name.toList with
  | [] => ""
  | c :: rest => .ofList (upperChar c ++ rest)

/-- A title case letter is no capital: it stays. -/
def decapitalizeChars : List Char → List Char
  | [] => []
  | c :: rest => if isTitlecase c then c :: rest else lowerChar c ++ rest

def decapitalizeFirst (name : String) : String := .ofList (decapitalizeChars name.toList)

/-- The runs of alphanumeric characters, in order. Whatever stands between them is left out. -/
def segments (name : List Char) : List (List Char) :=
  (name.splitOnP fun c => !isAlphanumeric c).filter (· ≠ [])

/-- Lower a segment. A character that lowering changes begins a new word, unless nothing has
been written yet. Marks that lowering splits off a letter are left out. -/
def splitWords (started : Bool) : List Char → List Char
  | [] => []
  | c :: rest =>
    let small := (lowerChar c).filter isAlphanumeric
    let gap := if isLowered c && started then ['_'] else []
    gap ++ small ++ splitWords (started || !small.isEmpty) rest

/-- The words of a name in small letters, joined by underscores. -/
def separatorChars (name : List Char) : List Char :=
  ['_'].intercalate ((segments name).map fun run => splitWords false (decapitalizeChars run))

/-- The name in small letters with underscores between its words: `viewCount` becomes
`view_count`. -/
def separatorCase (name : String) : String := .ofList (separatorChars name.toList)

/-- The name of many: an `s` at the end, whatever the word. -/
def pluralize (name : String) : String := if name = "" then "" else name ++ "s"

end EntityScaffold.Naming
