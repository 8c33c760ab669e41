import EntityScaffold.Text.Quoted
import EntityScaffold.Toml.Value

/-!
What can be wrong with a settings file, in words.
-/

namespace EntityScaffold.Settings

inductive Problem where
  | notToml
  /-- A table has a key that means nothing there. -/
  | unknownKey (name : String) (known : List String) (span : Toml.Span)
  /-- A value is not of the kind its key asks for. -/
  | wrongKind (value : Toml.Value) (wanted : String) (span : Toml.Span)

/-- Names in backquotes, for a choice of one. -/
def choice (names : List String) : String :=
  match names.map fun name => "`" ++ name ++ "`" with
  | [] => "no keys"
  | [only] => only
  | [one, other] => one ++ " or " ++ other
  | many => "one of " ++ ", ".intercalate many

/-- Which whole numbers a machine word of some width holds. -/
def inSigned (width : Nat) (number : Int) : Bool :=
  -(Nat.pow 2 (width - 1) : Int) ≤ number && number < (Nat.pow 2 (width - 1) : Int)

def inUnsigned (width : Nat) (number : Int) : Bool :=
  0 ≤ number && number < (Nat.pow 2 width : Int)

/-- What a whole number is called; `none` if it is beyond all bounds. -/
def integerKind? (number : Int) : Option String :=
  let shown := "integer `" ++ toString number ++ "`"
  if inSigned 64 number || inUnsigned 64 number then some shown
  else if inSigned 128 number then some (shown ++ " as i128")
  else if inUnsigned 128 number then some (shown ++ " as u128")
  else none

def floatKind (shown : String) : String := "floating point `" ++ shown ++ "`"

/-- What is said about a value of the wrong kind. A number beyond all bounds is refused for its
size. -/
def kindMessage (value : Toml.Value) (wanted : String) : String :=
  let wrong (kind : String) : String := "invalid type: " ++ kind ++ ", expected " ++ wanted
  match value with
  | .string text => wrong ("string " ++ Text.quoted text)
  | .integer number =>
    match integerKind? number with
    | some kind => wrong kind
    | none => "integer number overflowed"
  | .float number =>
    match number.text? with
    | some shown => wrong (floatKind shown)
    | none => "floating-point number overflowed"
  | .infinity negative => wrong (floatKind (if negative then "-inf" else "inf"))
  | .notANumber => wrong (floatKind "NaN")
  | .boolean value => wrong ("boolean `" ++ (if value then "true" else "false") ++ "`")
  | .array _ | .tables _ => wrong "sequence"
  | .moment | .table _ _ => wrong "map"

namespace Problem

/-- The problem in words; a text that is no document is not explained. -/
def detail? : Problem → Option String
  | .notToml => none
  | .unknownKey name known _ => some ("unknown field `" ++ name ++ "`, expected " ++ choice known)
  | .wrongKind value wanted _ => some (kindMessage value wanted)

def span? : Problem → Option Toml.Span
  | .notToml => none
  | .unknownKey _ _ span | .wrongKind _ _ span => some span

end Problem

end EntityScaffold.Settings
