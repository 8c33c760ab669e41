import EntityScaffold.Text.CaseTable
import EntityScaffold.Text.CasedTable

/-!
Capital and small letters. A single letter is mapped by itself; a whole text is lowered with an
eye on its words, because the Greek sigma has a second small form at a word's end.
-/

namespace EntityScaffold.Text

/-- The small form of a letter, or the character itself. Only the dotted capital I has a small
form of two characters. -/
def lowerChar (c : Char) : List Char :=
  if c = '\u0130' then ['i', '\u0307'] else [.ofNat (CaseRun.image lowerRuns c.toNat)]

/-- The capital form of a letter, or the character itself. -/
def upperChar (c : Char) : List Char :=
  match upperLigatures.lookup c.toNat with
  | some codes => codes.map .ofNat
  | none => [.ofNat (CaseRun.image upperRuns c.toNat)]

/-- The letters that are capital in their first half only, such as the digraph `Dž`. -/
def titlecaseSet : CharSet :=
  [(0x1C5, 0x1C5), (0x1C8, 0x1C8), (0x1CB, 0x1CB), (0x1F2, 0x1F2), (0x1F88, 0x1F8F),
   (0x1F98, 0x1F9F), (0x1FA8, 0x1FAF), (0x1FBC, 0x1FBC), (0x1FCC, 0x1FCC), (0x1FFC, 0x1FFC)]

def isTitlecase (c : Char) : Bool := titlecaseSet.has c

/-- Whether lowering changes a character. -/
def isLowered (c : Char) : Bool := lowerChar c != [c]

/-- Whether the first character that is not passed over is a letter with a case. -/
def meetsCased (text : List Char) : Bool :=
  match text.dropWhile caseIgnorableSet.has with
  | [] => false
  | c :: _ => casedSet.has c

/-- Lower a text. `before` holds the characters already passed, the nearest first. A capital
sigma takes its final form when a letter stands before it and none after it. -/
def lowerAfter (before : List Char) : List Char → List Char
  | [] => []
  | c :: rest =>
    let small :=
      if c = 'Σ' then [if meetsCased before && !meetsCased rest then 'ς' else 'σ']
      else lowerChar c
    small ++ lowerAfter (c :: before) rest

def lowercase (text : String) : String := .ofList (lowerAfter [] text.toList)

end EntityScaffold.Text
