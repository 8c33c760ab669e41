import EntityScaffold.Text.Hidden

/-!
A text shown between quotation marks, so that everything in it can be seen.
-/

namespace EntityScaffold.Text

def hexDigits (code : Nat) : List Char := Nat.toDigits 16 code

def shownChar (c : Char) : List Char :=
  if c = '"' then ['\\', '"']
  else if c = '\\' then ['\\', '\\']
  else if c = '\n' then ['\\', 'n']
  else if c = '\r' then ['\\', 'r']
  else if c = '\t' then ['\\', 't']
  else if c = '\x00' then ['\\', '0']
  else if hiddenSet.has c then "\\u\x7b".toList ++ hexDigits c.toNat ++ ['\x7d']
  else [c]

/-- The text between quotation marks. What cannot be seen is shown by its code point. -/
def quoted (text : String) : String :=
  .ofList ('"' :: text.toList.flatMap shownChar ++ ['"'])

end EntityScaffold.Text
