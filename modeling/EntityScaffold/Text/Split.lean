/-!
Cutting a text into pieces, and into lines.
-/

namespace EntityScaffold.Text

/-- The pieces of a text between two occurrences of a character. -/
def splitOn (cut : Char) (text : String) : List String :=
  (text.toList.splitOn cut).map .ofList

/-- A line without the carriage return before its end. -/
def trimReturn (line : List Char) : List Char :=
  if line.getLast? = some '\r' then line.dropLast else line

/-- The lines of a text whose last line is ended too. -/
def endedLines (text : String) : List String :=
  (text.toList.splitOn '\n').dropLast.map fun line => .ofList (trimReturn line)

end EntityScaffold.Text
