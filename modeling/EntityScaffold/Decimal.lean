/-!
Decimal numbers, the 64-bit binary numbers nearest to them, and the shortest decimals that lead
back to those.
-/

namespace EntityScaffold

/-- The number `digits · 10 ^ exponent`, with a sign that zero has too. -/
structure Decimal where
  negative : Bool
  digits : Nat
  exponent : Int
  deriving DecidableEq, Repr

namespace Decimal

/-- The number `mantissa · 2 ^ exponent`. -/
structure Binary where
  mantissa : Nat
  exponent : Int
  deriving DecidableEq, Repr

/-- The numerator and the denominator of `count · base ^ exponent`. -/
def ratio (count base : Nat) (exponent : Int) : Nat × Nat :=
  if 0 ≤ exponent then (count * Nat.pow base exponent.toNat, 1)
  else (count, Nat.pow base (-exponent).toNat)

/-- The whole number nearest to a quotient; of two, the even one. -/
def roundEven (numerator denominator : Nat) : Nat :=
  let whole := numerator / denominator
  let rest := 2 * (numerator % denominator)
  if rest < denominator then whole
  else if denominator < rest then whole + 1
  else whole + whole % 2

def leastExponent : Int := -1074

def mantissaBound : Nat := Nat.pow 2 53

/-- The 64-bit binary number nearest to a positive quotient, if its exponent were unbounded
above. -/
def nearestBinary (numerator denominator : Nat) : Binary :=
  let scaled (exponent : Int) : Nat × Nat :=
    if 0 ≤ exponent then (numerator, denominator * Nat.pow 2 exponent.toNat)
    else (numerator * Nat.pow 2 (-exponent).toNat, denominator)
  let guess := max ((numerator.log2 : Int) - (denominator.log2 : Int) - 53) leastExponent
  let (n, d) := scaled guess
  let exponent := if mantissaBound ≤ n / d then guess + 1 else guess
  let (n, d) := scaled exponent
  let mantissa := roundEven n d
  if mantissa = mantissaBound then ⟨mantissa / 2, exponent + 1⟩ else ⟨mantissa, exponent⟩

def width (digits : Nat) : Nat := (Nat.toDigits 10 digits).length

/-- The size of the nearest 64-bit number; `none` when there is none, because all are smaller. -/
def binary? (number : Decimal) : Option Binary :=
  let reach := number.exponent + width number.digits
  if number.digits = 0 ∨ reach < -330 then some ⟨0, leastExponent⟩
  else if 310 < reach then none
  else
    let (n, d) := ratio number.digits 10 number.exponent
    let nearest := nearestBinary n d
    if 971 < nearest.exponent then none else some nearest

/-- The digits of the given last place that lead back to a number: of its two neighbours there,
the nearer one that does, and the upper one if both are equally near. -/
def onGrid (number : Binary) (place : Int) : Option (Nat × Int) :=
  let (quarter, parts) := ratio 1 2 (number.exponent - 2)
  let (unit, pieces) := ratio 1 10 place
  let value := 4 * number.mantissa * quarter * pieces
  let above := 2 * quarter * pieces
  let isPower := number.mantissa = mantissaBound / 2 ∧ leastExponent < number.exponent
  let below := if isPower then quarter * pieces else above
  let step := unit * parts
  let fits (count : Nat) : Bool :=
    let point := count * step
    if number.mantissa % 2 = 0 then value ≤ point + below && point ≤ value + above
    else value < point + below && point < value + above
  let low := value / step
  match low != 0 && fits low, fits (low + 1) with
  | true, true => some (if 2 * (value % step) < step then low else low + 1, place)
  | true, false => some (low, place)
  | false, true => some (low + 1, place)
  | false, false => none

/-- The exponent of a positive number's first decimal digit. -/
def firstPlace (number : Binary) : Int :=
  let (n, d) := ratio number.mantissa 2 number.exponent
  if d ≤ n then (width (n / d) : Int) - 1 else -((width ((d - 1) / n) : Int))

/-- The fewest digits that lead back to a number, found by trying 1, 2, …, 17 of them. -/
def shortest (number : Binary) : Nat × Int :=
  let first := firstPlace number
  ((List.range 17).findSome? fun (more : Nat) => onGrid number (first - more)).getD (0, 0)

def dropZeros : Nat → Nat → Int → Nat × Int
  | 0, digits, place => (digits, place)
  | fuel + 1, digits, place =>
    if digits ≠ 0 ∧ digits % 10 = 0 then dropZeros fuel (digits / 10) (place + 1)
    else (digits, place)

/-- A number written out around its point, with at least one digit on each side. -/
def positional (digits : Nat) (place : Int) : List Char :=
  let shown := Nat.toDigits 10 digits
  if 0 ≤ place then shown ++ List.replicate place.toNat '0' ++ ['.', '0']
  else
    let behind := (-place).toNat
    let padded := List.replicate (behind + 1 - shown.length) '0' ++ shown
    padded.take (padded.length - behind) ++ '.' :: padded.drop (padded.length - behind)

/-- The text of the nearest 64-bit number: its fewest digits, never with an exponent. `none` when
the number is too large. -/
def text? (number : Decimal) : Option String :=
  number.binary?.map fun nearest =>
    let (digits, place) :=
      if nearest.mantissa = 0 then (0, 0)
      else
        let (digits, place) := shortest nearest
        dropZeros 20 digits place
    .ofList ((if number.negative then ['-'] else []) ++ positional digits place)

end Decimal

end EntityScaffold
