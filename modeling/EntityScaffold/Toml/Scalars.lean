import EntityScaffold.Toml.Value

/-!
Values written without marks around them: truth values, numbers, dates and times. Each reader
here takes a whole word.
-/

namespace EntityScaffold.Toml

/-- The digits of a number that may be grouped: between two digits one underscore may stand. -/
def grouped? (isDigit : Char → Bool) (word : List Char) : Option (List Char) :=
  let groups := word.splitOn '_'
  if groups.all fun group => !group.isEmpty && group.all isDigit then some groups.flatten else none

/-- The value of digits in a base up to sixteen. -/
def number (base : Nat) (digits : List Char) : Nat :=
  digits.foldl (fun sum digit => base * sum + digitValue digit) 0
where
  digitValue (c : Char) : Nat :=
    if '0' ≤ c ∧ c ≤ '9' then c.toNat - '0'.toNat else c.toLower.toNat - 'a'.toNat + 10

def isBinaryDigit (c : Char) : Bool := c = '0' || c = '1'

def isOctalDigit (c : Char) : Bool := '0' ≤ c && c ≤ '7'

def isHexDigit (c : Char) : Bool :=
  c.isDigit || ('a' ≤ c && c ≤ 'f') || ('A' ≤ c && c ≤ 'F')

/-- A sign may stand before a number. -/
def sign : List Char → Bool × List Char
  | '-' :: rest => (true, rest)
  | '+' :: rest => (false, rest)
  | word => (false, word)

/-- Decimal digits that do not begin with a zero, unless they are just that. -/
def natural? (word : List Char) : Option (List Char) :=
  if word.head? = some '0' ∧ word ≠ ['0'] then none else grouped? Char.isDigit word

/-- A whole number. Only a decimal one has a sign. -/
def integer? (word : List Char) : Option Int :=
  match word with
  | '0' :: 'x' :: digits => (grouped? isHexDigit digits).map fun ds => number 16 ds
  | '0' :: 'o' :: digits => (grouped? isOctalDigit digits).map fun ds => number 8 ds
  | '0' :: 'b' :: digits => (grouped? isBinaryDigit digits).map fun ds => number 2 ds
  | _ =>
    let (negative, digits) := sign word
    (natural? digits).map fun ds => if negative then -(number 10 ds : Int) else number 10 ds

/-- The exponent of a number with a fraction or an exponent. -/
def exponent? (word : List Char) : Option Int :=
  let (negative, digits) := sign word
  (grouped? Char.isDigit digits).map fun ds =>
    if negative then -(number 10 ds : Int) else number 10 ds

def float? (word : List Char) : Option Decimal :=
  let (negative, digits) := sign word
  let (front, power) :=
    match digits.splitOnP fun c => c = 'e' || c = 'E' with
    | [front] => (front, some none)
    | [front, power] => (front, (exponent? power).map some)
    | _ => ([], none)
  match power, front.splitOn '.' with
  | some (some power), [whole] => (natural? whole).map fun ds => ⟨negative, number 10 ds, power⟩
  | some power, [whole, fraction] =>
    match natural? whole, grouped? Char.isDigit fraction with
    | some ds, some fs => some ⟨negative, number 10 (ds ++ fs), power.getD 0 - fs.length⟩
    | _, _ => none
  | _, _ => none

def fixed? (width : Nat) (word : List Char) : Option Nat :=
  if word.length = width ∧ word.all Char.isDigit then some (number 10 word) else none

def isLeapYear (year : Nat) : Bool := year % 4 = 0 && (year % 100 ≠ 0 || year % 400 = 0)

def daysIn (year month : Nat) : Nat :=
  match month with
  | 2 => if isLeapYear year then 29 else 28
  | 4 | 6 | 9 | 11 => 30
  | _ => 31

/-- A date such as `1979-05-27`. -/
def isDate (word : List Char) : Bool :=
  match word.splitOn '-' with
  | [year, month, day] =>
    match fixed? 4 year, fixed? 2 month, fixed? 2 day with
    | some year, some month, some day =>
      1 ≤ month && month ≤ 12 && 1 ≤ day && day ≤ daysIn year month
    | _, _, _ => false
  | _ => false

/-- Hours and minutes within a day. -/
def isClock (hour minute : List Char) : Bool :=
  match fixed? 2 hour, fixed? 2 minute with
  | some hour, some minute => hour ≤ 23 && minute ≤ 59
  | _, _ => false

/-- Seconds, a leap second included, with an optional fraction. -/
def isSeconds (word : List Char) : Bool :=
  match word.splitOn '.' with
  | whole :: fraction =>
    (match fixed? 2 whole with
      | some second => second ≤ 60
      | none => false) &&
    (match fraction with
      | [] => true
      | [digits] => !digits.isEmpty && digits.all Char.isDigit
      | _ => false)
  | [] => false

/-- A time such as `07:32` or `07:32:00.5`. -/
def isTime (word : List Char) : Bool :=
  match word.splitOn ':' with
  | [hour, minute] => isClock hour minute
  | [hour, minute, second] => isClock hour minute && isSeconds second
  | _ => false

/-- A time with an optional offset: `Z`, or hours and minutes with a sign. -/
def isZonedTime (word : List Char) : Bool :=
  match word.getLast? with
  | none => false
  | some 'Z' | some 'z' => isTime word.dropLast
  | _ =>
    match word.splitOnP fun c => c = '+' || c = '-' with
    | [time] => isTime time
    | [time, offset] =>
      isTime time && (match offset.splitOn ':' with
        | [hour, minute] => isClock hour minute
        | _ => false)
    | _ => false

/-- A date, a time, or a date and a time with a letter T or a space between them. -/
def isMoment (word : List Char) : Bool :=
  isDate word || isTime word ||
    (match word.drop 10 with
      | c :: time => (c = 'T' || c = 't' || c = ' ') && isDate (word.take 10) && isZonedTime time
      | [] => false)

def isWordChar (c : Char) : Bool :=
  c.isAlphanum || c = '+' || c = '-' || c = '_' || c = '.' || c = ':'

def scalar? (word : List Char) : Option Value :=
  if word = "true".toList then some (.boolean true)
  else if word = "false".toList then some (.boolean false)
  else
    let (negative, digits) := sign word
    if digits = "inf".toList then some (.infinity negative)
    else if digits = "nan".toList then some .notANumber
    else
      match integer? word with
      | some number => some (.integer number)
      | none =>
        match float? word with
        | some number => some (.float number)
        | none => if isMoment word then some .moment else none

/-- Read a word. A time may follow a date after one space. -/
def word (text : List Char) : List Char × List Char :=
  let first := text.takeWhile isWordChar
  let rest := text.dropWhile isWordChar
  match rest with
  | ' ' :: c :: more =>
    if isDate first && c.isDigit then
      (first ++ ' ' :: (c :: more).takeWhile isWordChar, (c :: more).dropWhile isWordChar)
    else (first, rest)
  | _ => (first, rest)

end EntityScaffold.Toml
