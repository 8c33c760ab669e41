import EntityScaffold.Toml.Chars

/-!
Reading strings. The readers of a string's body start behind its opening marks and leave what
follows its closing ones.
-/

namespace EntityScaffold.Toml

def escaped? (letter : Char) : Option Char :=
  match letter with
  | 'b' => some '\x08'
  | 't' => some '\t'
  | 'n' => some '\n'
  | 'f' => some '\x0c'
  | 'r' => some '\r'
  | 'e' => some '\x1b'
  | '"' => some '"'
  | '\\' => some '\\'
  | _ => none

def hexWidth? (letter : Char) : Option Nat :=
  match letter with
  | 'x' => some 2
  | 'u' => some 4
  | 'U' => some 8
  | _ => none

def hexDigit? (c : Char) : Option Nat :=
  if '0' ≤ c ∧ c ≤ '9' then some (c.toNat - '0'.toNat)
  else if 'a' ≤ c ∧ c ≤ 'f' then some (c.toNat - 'a'.toNat + 10)
  else if 'A' ≤ c ∧ c ≤ 'F' then some (c.toNat - 'A'.toNat + 10)
  else none

def charOf? (code : Nat) : Option Char := if code.isValidChar then some (.ofNat code) else none

/-- Put a character before what a reader has read. -/
def before (c : Char) (read : Option (List Char × List Char)) : Option (List Char × List Char) :=
  read.map fun (text, rest) => (c :: text, rest)

/-- What the reader of a string is in the middle of. -/
inductive Pending where
  /-- Nothing. After a line-ending backslash, padding and line ends are left out. -/
  | plain (folding : Bool)
  /-- An escape, behind its backslash. -/
  | escape
  /-- The rest of a line after a line-ending backslash. -/
  | lineEnd
  /-- An escape that still lacks some hexadecimal digits. -/
  | hex (missing : Nat) (code : Nat)

/-- The body of a string between quotation marks on one line. -/
def basicBody : Pending → List Char → Option (List Char × List Char)
  | _, [] => none
  | .plain _, c :: rest =>
    if c = '"' then some ([], rest)
    else if c = '\\' then basicBody .escape rest
    else if isPlain c then before c (basicBody (.plain false) rest)
    else none
  | .escape, c :: rest =>
    match escaped? c, hexWidth? c with
    | some d, _ => before d (basicBody (.plain false) rest)
    | none, some width => basicBody (.hex width 0) rest
    | none, none => none
  | .lineEnd, _ :: _ => none
  | .hex missing code, c :: rest =>
    match hexDigit? c with
    | none => none
    | some digit =>
      if missing ≤ 1 then
        match charOf? (16 * code + digit) with
        | none => none
        | some d => before d (basicBody (.plain false) rest)
      else basicBody (.hex (missing - 1) (16 * code + digit)) rest

/-- Whether a line end begins with this character. -/
def opensNewline (c : Char) (rest : List Char) : Bool :=
  c = '\n' || (c = '\r' && rest.head? == some '\n')

/-- Up to two marks before three closing ones belong to the string. The text starts behind the
first mark of the run. -/
def closeRun (mark : Char) (text : List Char) : List Char × List Char :=
  let own := ((text.drop 2).take 2).takeWhile (· = mark)
  (own, text.drop (2 + own.length))

/-- The body of a string between three quotation marks. -/
def multiBasicBody : Pending → List Char → Option (List Char × List Char)
  | _, [] => none
  | .plain folding, c :: rest =>
    if folding && (isPad c || opensNewline c rest) then multiBasicBody (.plain true) rest
    else if c = '"' ∧ rest.take 2 = ['"', '"'] then some (closeRun '"' rest)
    else if c = '\\' then multiBasicBody .escape rest
    else if isPlain c || opensNewline c rest then before c (multiBasicBody (.plain false) rest)
    else none
  | .escape, c :: rest =>
    if c = '\n' then multiBasicBody (.plain true) rest
    else if isPad c || opensNewline c rest then multiBasicBody .lineEnd rest
    else
      match escaped? c, hexWidth? c with
      | some d, _ => before d (multiBasicBody (.plain false) rest)
      | none, some width => multiBasicBody (.hex width 0) rest
      | none, none => none
  | .lineEnd, c :: rest =>
    if c = '\n' then multiBasicBody (.plain true) rest
    else if isPad c || opensNewline c rest then multiBasicBody .lineEnd rest
    else none
  | .hex missing code, c :: rest =>
    match hexDigit? c with
    | none => none
    | some digit =>
      if missing ≤ 1 then
        match charOf? (16 * code + digit) with
        | none => none
        | some d => before d (multiBasicBody (.plain false) rest)
      else multiBasicBody (.hex (missing - 1) (16 * code + digit)) rest

/-- The body of a string between apostrophes on one line. -/
def literalBody : List Char → Option (List Char × List Char)
  | [] => none
  | c :: rest =>
    if c = '\x27' then some ([], rest)
    else if isPlain c then before c (literalBody rest)
    else none

/-- The body of a string between three apostrophes. -/
def multiLiteralBody : List Char → Option (List Char × List Char)
  | [] => none
  | c :: rest =>
    if c = '\x27' ∧ rest.take 2 = ['\x27', '\x27'] then some (closeRun '\x27' rest)
    else if isPlain c || opensNewline c rest then before c (multiLiteralBody rest)
    else none

/-- A line end right behind three opening marks is no part of the string. -/
def trimNewline (text : List Char) : List Char := (newline? text).getD text

/-- Read a string on one line, as keys may be written too. -/
def lineString? : List Char → Option (List Char × List Char)
  | '"' :: rest => basicBody (.plain false) rest
  | '\x27' :: rest => literalBody rest
  | _ => none

/-- Read a string of any of the four kinds. -/
def string? (text : List Char) : Option (List Char × List Char) :=
  if text.take 3 = ['"', '"', '"'] then multiBasicBody (.plain false) (trimNewline (text.drop 3))
  else if text.take 3 = ['\x27', '\x27', '\x27'] then
    multiLiteralBody (trimNewline (text.drop 3))
  else lineString? text

end EntityScaffold.Toml
