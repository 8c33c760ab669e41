import EntityScaffold.Decimal

/-!
The values of a TOML document, each with the stretch of text it was read from.
-/

namespace EntityScaffold.Toml

def byteCount : List Char → Nat
  | [] => 0
  | c :: rest => c.utf8Size + byteCount rest

/-- A stretch of a text, known by how many bytes are left where it begins and where it ends. -/
structure Span where
  fromStart : Nat
  fromEnd : Nat
  deriving DecidableEq, Repr

namespace Span

/-- The stretch between a text and what is left of it. -/
def between (text rest : List Char) : Span := ⟨byteCount text, byteCount rest⟩

def start (span : Span) (size : Nat) : Nat := size - span.fromStart

def length (span : Span) : Nat := span.fromStart - span.fromEnd

end Span

/-- A key as it was written once. -/
structure Key where
  name : String
  span : Span
  deriving DecidableEq, Repr

/-- How a table came to be, which decides who may add to it. -/
inductive Standing where
  /-- By a header of its own, or as the whole document. -/
  | declared
  /-- By a header further down. -/
  | implied
  /-- By a dotted key. -/
  | dotted
  /-- Between braces, where it is complete. -/
  | closed
  deriving DecidableEq, Repr

/-- A value. Tables keep their keys in the order of the document. -/
inductive Value where
  | string (text : String)
  | integer (number : Int)
  | float (number : Decimal)
  | infinity (negative : Bool)
  | notANumber
  | boolean (value : Bool)
  | moment
  | array (items : List (Span × Value))
  /-- An array of tables, one for each of its headers. -/
  | tables (items : List (Span × List (Key × Span × Value)))
  | table (standing : Standing) (entries : List (Key × Span × Value))

/-- A key with its value and where the value stands. -/
abbrev Entry := Key × Span × Value

end EntityScaffold.Toml
