import EntityScaffold.Text.CharSet

/-!
White space, and trimming it from both ends of a text.
-/

namespace EntityScaffold.Text

/-- The White_Space characters. -/
def blankSet : CharSet :=
  [(0x09, 0x0D), (0x20, 0x20), (0x85, 0x85), (0xA0, 0xA0), (0x1680, 0x1680), (0x2000, 0x200A),
   (0x2028, 0x2029), (0x202F, 0x202F), (0x205F, 0x205F), (0x3000, 0x3000)]

def isBlank (c : Char) : Bool := blankSet.has c

/-- Leave out the blanks at the end. A blank is kept as long as something else follows it. -/
def trimRight : List Char → List Char
  | [] => []
  | c :: rest =>
    match trimRight rest with
    | [] => if isBlank c then [] else [c]
    | kept => c :: kept

/-- Leave out the blanks at both ends. -/
def trimChars (text : List Char) : List Char := trimRight (text.dropWhile isBlank)

/-- The text without the white space at its ends. -/
def trim (text : String) : String := .ofList (trimChars text.toList)

end EntityScaffold.Text
