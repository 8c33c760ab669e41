/-!
The characters of a TOML document, and passing over what carries no value: padding, comments and
line ends. A reader takes the text that is left and gives back what it leaves.
-/

namespace EntityScaffold.Toml

def isPad (c : Char) : Bool := c = ' ' || c = '\t'

/-- What comments and strings may hold without an escape: all but control characters, of which
only the tab is allowed. -/
def isPlain (c : Char) : Bool := c = '\t' || (' ' ≤ c && c ≠ '\x7f')

/-- What a key may hold without quotation marks. -/
def isBare (c : Char) : Bool := c.isAlphanum || c = '_' || c = '-'

def skipPads (text : List Char) : List Char := text.dropWhile isPad

/-- A line ends with a line feed, or with a carriage return and a line feed. -/
def newline? : List Char → Option (List Char)
  | '\n' :: rest => some rest
  | '\r' :: '\n' :: rest => some rest
  | _ => none

/-- Pass over a comment, if one begins here. -/
def skipComment : List Char → List Char
  | '#' :: rest => rest.dropWhile isPlain
  | text => text

/-- Finish a line: padding, a comment, and a line end or the end of the text. -/
def endLine? (text : List Char) : Option (List Char) :=
  match skipComment (skipPads text) with
  | [] => some []
  | rest => newline? rest

/-- Pass over padding, line ends and comments, as allowed between the items of an array. -/
def skipGaps? (comment : Bool) : List Char → Option (List Char)
  | [] => some []
  | c :: rest =>
    if c = '\n' then skipGaps? false rest
    else if c = '\r' ∧ rest.head? = some '\n' then skipGaps? comment rest
    else if comment then (if isPlain c then skipGaps? true rest else none)
    else if isPad c then skipGaps? false rest
    else if c = '#' then skipGaps? true rest
    else some (c :: rest)

end EntityScaffold.Toml
