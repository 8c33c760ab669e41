/-!
Writing a text as a TOML string, in the plainest of the four forms that can hold it.
-/

namespace EntityScaffold.Toml

inductive Form where
  | basic
  | literal
  | multiBasic
  | multiLiteral
  deriving DecidableEq, Repr

/-- The longest run of a character, and the run that the text begins with. -/
def runs (mark : Char) : List Char → Nat × Nat
  | [] => (0, 0)
  | c :: rest =>
    let (longest, first) := runs mark rest
    if c = mark then (max longest (first + 1), first + 1) else (longest, 0)

def longestRun (mark : Char) (text : List Char) : Nat := (runs mark text).1

/-- A control character other than the tab and the line feed. Only an escape can write it. -/
def isCoded (c : Char) : Bool := (c < ' ' && c ≠ '\t' && c ≠ '\n') || c = '\x7f'

/-- The form for a text: a basic string where nothing asks for an escape, else a literal one, and
escapes only where no form does without. -/
def form (text : List Char) : Form :=
  let coded := text.any isCoded
  let lines := '\n' ∈ text
  let slashes := '\\' ∈ text
  if ¬coded ∧ ¬slashes ∧ '"' ∉ text ∧ ¬lines then .basic
  else if ¬coded ∧ '\x27' ∉ text ∧ ¬lines then .literal
  else if ¬coded ∧ ¬slashes ∧ longestRun '"' text ≤ 2 then .multiBasic
  else if ¬coded ∧ longestRun '\x27' text ≤ 2 then .multiLiteral
  else if lines then .multiBasic
  else .basic

def fourDigits (code : Nat) : List Char :=
  let digits := (Nat.toDigits 16 code).map Char.toUpper
  List.replicate (4 - digits.length) '0' ++ digits

/-- An escape for a character, where it needs one. -/
def escape? (c : Char) : Option (List Char) :=
  if c = '\x08' then some ['\\', 'b']
  else if c = '\t' then some ['\\', 't']
  else if c = '\x0c' then some ['\\', 'f']
  else if c = '\r' then some ['\\', 'r']
  else if c = '\\' then some ['\\', '\\']
  else if c < ' ' ∨ c = '\x7f' then some ('\\' :: 'u' :: fourDigits c.toNat)
  else none

/-- The body of a string between quotation marks. `run` marks stand right before it; one more
than `spare` of them in a row is escaped. -/
def basicText (multi : Bool) (spare run : Nat) : List Char → List Char
  | [] => []
  | c :: rest =>
    if c = '"' then
      if spare ≤ run then '\\' :: '"' :: basicText multi spare 0 rest
      else '"' :: basicText multi spare (run + 1) rest
    else if c = '\n' then
      (if multi then ['\n'] else ['\\', 'n']) ++ basicText multi spare 0 rest
    else (escape? c).getD [c] ++ basicText multi spare 0 rest

/-- A text of several lines starts on a line of its own. -/
def opening (text : List Char) : List Char := if '\n' ∈ text then ['\n'] else []

def spellAs (text : List Char) : Form → List Char
  | .basic => '"' :: basicText false 0 0 text ++ ['"']
  | .literal => '\x27' :: text ++ ['\x27']
  | .multiBasic => ['"', '"', '"'] ++ opening text ++ basicText true 2 0 text ++ ['"', '"', '"']
  | .multiLiteral =>
    ['\x27', '\x27', '\x27'] ++ opening text ++ text ++ ['\x27', '\x27', '\x27']

def spell (text : String) : String := .ofList (spellAs text.toList (form text.toList))

end EntityScaffold.Toml
