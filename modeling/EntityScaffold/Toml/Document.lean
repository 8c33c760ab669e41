import EntityScaffold.Toml.Scalars
import EntityScaffold.Toml.Strings
import EntityScaffold.Toml.Table

/-!
Reading a TOML document.
-/

namespace EntityScaffold.Toml

def key? (text : List Char) : Option (Key × List Char) :=
  match lineString? text with
  | some (name, rest) => some (⟨.ofList name, .between text rest⟩, rest)
  | none =>
    let name := text.takeWhile isBare
    let rest := text.dropWhile isBare
    if name.isEmpty then none else some (⟨.ofList name, .between text rest⟩, rest)

/-- Read keys with dots between them: those before the last dot, and the last one. Padding after
the last key is passed over. -/
def dottedKey? : Nat → List Char → Option (List Key × Key × List Char)
  | 0, _ => none
  | fuel + 1, text => do
    let (key, rest) ← key? (skipPads text)
    match skipPads rest with
    | '.' :: more =>
      let (path, last, rest) ← dottedKey? fuel more
      some (key :: path, last, rest)
    | rest => some ([], key, rest)

/-- Read the items of an array, behind its opening bracket. -/
def items? (value? : List Char → Option (Value × List Char)) :
    Nat → List Char → Option (List (Span × Value) × List Char)
  | 0, _ => none
  | fuel + 1, text => do
    match ← skipGaps? false text with
    | ']' :: rest => some ([], rest)
    | text =>
      let (value, rest) ← value? text
      let span := Span.between text rest
      match ← skipGaps? false rest with
      | ',' :: more =>
        let (items, rest) ← items? value? fuel more
        some ((span, value) :: items, rest)
      | ']' :: rest => some ([(span, value)], rest)
      | _ => none

/-- Read a key, an equals sign and a value, and add them to a table. -/
def pair? (value? : List Char → Option (Value × List Char))
    (add : List Key → Key → Span → Value → Option (List Entry)) (text : List Char) :
    Option (List Entry × List Char) := do
  match ← dottedKey? (text.length + 1) text with
  | (path, key, '=' :: rest) =>
    let text := skipPads rest
    let (value, rest) ← value? text
    let entries ← add path key (.between text rest) value
    some (entries, rest)
  | _ => none

/-- Read the entries of a table between braces, behind the opening one. -/
def pairs? (value? : List Char → Option (Value × List Char)) :
    Nat → List Entry → List Char → Option (List Entry × List Char)
  | 0, _, _ => none
  | fuel + 1, entries, text => do
    match ← skipGaps? false text with
    | '}' :: rest => some (entries, rest)
    | text =>
      let add path key span value := addValue path key span value .closed entries
      let (entries, rest) ← pair? value? add text
      match ← skipGaps? false rest with
      | ',' :: more => pairs? value? fuel entries more
      | '}' :: rest => some (entries, rest)
      | _ => none

/-- Read a value. Brackets and braces may be nested as often as `depth` says. -/
def value? (depth : Nat) (text : List Char) : Option (Value × List Char) :=
  match text with
  | [] => none
  | c :: rest =>
    if c = '"' ∨ c = '\x27' then
      (string? text).map fun (body, rest) => (.string (.ofList body), rest)
    else if c = '[' then
      match depth with
      | 0 => none
      | depth + 1 =>
        (items? (value? depth) (rest.length + 1) rest).map fun (items, rest) => (.array items, rest)
    else if c = '\x7b' then
      match depth with
      | 0 => none
      | depth + 1 =>
        (pairs? (value? depth) (rest.length + 1) [] rest).map fun (entries, rest) =>
          (.table .closed entries, rest)
    else
      let (word, rest) := word text
      (scalar? word).map fun value => (value, rest)

def maxDepth : Nat := 80

/-- A document as far as it has been read: the table of its last header, and all entries. -/
structure Document where
  header : List Key := []
  entries : List Entry := []

namespace Document

/-- Read the keys of a header, behind its opening brackets. -/
def headerKeys? (closing : List Char) (text : List Char) :
    Option (List Key × Key × List Char) := do
  let (path, key, rest) ← dottedKey? (text.length + 1) text
  if closing.isPrefixOf rest then some (path, key, rest.drop closing.length) else none

def line? (document : Document) (text : List Char) : Option (Document × List Char) :=
  match text with
  | '[' :: '[' :: inner => do
    let (path, key, rest) ← headerKeys? [']', ']'] inner
    let entries ← declareItem path key (.between text rest) document.entries
    some (⟨path ++ [key], entries⟩, rest)
  | '[' :: inner => do
    let (path, key, rest) ← headerKeys? [']'] inner
    let entries ← declareTable path key (.between text rest) document.entries
    some (⟨path ++ [key], entries⟩, rest)
  | _ => do
    let add path key span value :=
      alter false (addValue path key span value) document.header .declared document.entries
    let (entries, rest) ← pair? (value? maxDepth) add text
    some ({ document with entries }, rest)

/-- Whether nothing but padding and a comment stands before the end of the line. -/
def isBlankLine (text : List Char) : Bool :=
  match text with
  | [] => true
  | c :: _ => c = '#' || c = '\n' || c = '\r'

def lines? : Nat → Document → List Char → Option Document
  | _, document, [] => some document
  | 0, _, _ => none
  | fuel + 1, document, text => do
    let text := skipPads text
    let (document, rest) ←
      if isBlankLine text then some (document, text) else document.line? text
    lines? fuel document (← endLine? rest)

end Document

/-- A mark for the byte order may stand at the very beginning. -/
def dropMark : List Char → List Char
  | '\uFEFF' :: rest => rest
  | text => text

/-- The entries of a document; `none` for a text that is no document. -/
def parse? (text : String) : Option (List Entry) :=
  let body := dropMark text.toList
  (Document.lines? (body.length + 1) {} body).map (·.entries)

end EntityScaffold.Toml
