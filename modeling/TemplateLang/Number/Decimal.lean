import TemplateLang.Number.Binary64

/-!
# Decimal text of numbers

A decimal is a natural number of digits times a power of ten.  Reading one gives
the nearest number.  Writing a number takes the fewest digits that read back as
it, and of those the ones nearest to its exact value.
-/

namespace TemplateLang

/-- `digits * 10 ^ exponent`. -/
structure Decimal where
  digits : Nat
  exponent : Int
deriving DecidableEq, Repr

/-- The value of a digit in bases up to sixteen. -/
def digitValue? (c : Char) : Option Nat :=
  if '0' ≤ c ∧ c ≤ '9' then some (c.toNat - '0'.toNat)
  else if 'a' ≤ c ∧ c ≤ 'f' then some (c.toNat - 'a'.toNat + 10)
  else if 'A' ≤ c ∧ c ≤ 'F' then some (c.toNat - 'A'.toNat + 10)
  else none

/-- Whether a character is a digit of a base. -/
def isDigitOf (base : Nat) (c : Char) : Bool :=
  match digitValue? c with
  | some value => value < base
  | none => false

/-- The natural number that digits write in a base; other characters count as
zero. -/
def naturalOfDigits (base : Nat) (digits : List Char) : Nat :=
  digits.foldl (fun total c => total * base + (digitValue? c).getD 0) 0

namespace Number

/-! ## Reading -/

/-- The number nearest to a decimal.  Exponents that are far out of range are
decided without computing their power. -/
def ofDecimal (isNegative : Bool) (decimal : Decimal) : Number :=
  if decimal.digits = 0 then zero isNegative
  else if 0 ≤ decimal.exponent then
    if 342 ≤ decimal.exponent then infinite isNegative
    else round isNegative (decimal.digits * Nat.pow 10 decimal.exponent.toNat) 0
  else
    let places := (-decimal.exponent).toNat
    if Nat.log2 decimal.digits + 1080 < 3 * places then zero isNegative
    else roundRatio isNegative decimal.digits (Nat.pow 10 places) 0

/-! ## The shortest decimal -/

/-- The numbers that read back as a positive number fill an interval around it.
All three values count the same unit, a fourth of the last place; the ends
belong to the interval when the mantissa is even. -/
structure Interval where
  low : Nat
  value : Nat
  high : Nat
  unit : Int
  closed : Bool
deriving DecidableEq, Repr

/-- The interval of `mantissa * 2 ^ exponent`.  Below a power of two the
numbers lie twice as dense. -/
def interval (mantissa : Nat) (exponent : Int) : Interval where
  low := if mantissa = Nat.pow 2 52 ∧ -1074 < exponent then 4 * mantissa - 1 else 4 * mantissa - 2
  value := 4 * mantissa
  high := 4 * mantissa + 2
  unit := exponent - 2
  closed := mantissa % 2 = 0

/-- `amount * 2 ^ unit`, made comparable with counts of `10 ^ power` by clearing
both denominators. -/
def overPower (unit power : Int) (amount : Nat) : Nat :=
  amount * Nat.pow 2 unit.toNat * Nat.pow 10 (-power).toNat

/-- `count * 10 ^ power` on the scale of `overPower`. -/
def onGrid (unit power : Int) (count : Nat) : Nat :=
  count * Nat.pow 10 power.toNat * Nat.pow 2 (-unit).toNat

/-- Whether `count * 10 ^ power` lies in an interval. -/
def Interval.holds (i : Interval) (power : Int) (count : Nat) : Bool :=
  let point := onGrid i.unit power count
  let low := overPower i.unit power i.low
  let high := overPower i.unit power i.high
  if i.closed then low ≤ point && point ≤ high else low < point && point < high

/-- Which of two equally near decimals is written. -/
inductive Tie where
  | toEven
  | up
deriving DecidableEq, Repr

/-- Whether the lower of two neighbours is written, `rest` above it in steps of
`step`. -/
def Tie.takesLower (tie : Tie) (below rest step : Nat) : Bool :=
  2 * rest < step || (2 * rest = step && tie = .toEven && below % 2 = 0)

/-- The point of the grid of multiples of `10 ^ power` that lies in an interval
nearest to its value. -/
def Interval.nearest? (i : Interval) (tie : Tie) (power : Int) : Option Nat :=
  let value := overPower i.unit power i.value
  let step := onGrid i.unit power 1
  let below := value / step
  let above := below + 1
  match i.holds power below, i.holds power above with
  | true, true => some (if tie.takesLower below (value % step) step then below else above)
  | true, false => some below
  | false, true => some above
  | false, false => none

/-- The least power of ten above `mantissa * 2 ^ exponent`, found by moving down
from a power that is certainly above. -/
def powerAbove (mantissa : Nat) (exponent : Int) : Int :=
  let bits : Int := Nat.log2 mantissa + 1 + exponent
  let estimate := bits * 30103 / 100000 + 1
  let isAbove (power : Int) : Bool :=
    overPower exponent power mantissa < onGrid exponent power 1
  if isAbove (estimate - 2) then estimate - 2
  else if isAbove (estimate - 1) then estimate - 1
  else estimate

/-- Try the grids of `power`, one finer each time, until one has a point in the
interval. -/
def firstHit (i : Interval) (tie : Tie) : Nat → Int → Decimal
  | 0, power => ⟨(i.nearest? tie power).getD 0, power⟩
  | tries + 1, power =>
    match i.nearest? tie power with
    | some digits => ⟨digits, power⟩
    | none => firstHit i tie tries (power - 1)

/-- A decimal without trailing zeros in its digits, of which it drops at most
`limit`. -/
def dropZeros : Nat → Decimal → Decimal
  | 0, decimal => decimal
  | limit + 1, decimal =>
    if decimal.digits % 10 = 0 ∧ decimal.digits ≠ 0 then
      dropZeros limit ⟨decimal.digits / 10, decimal.exponent + 1⟩
    else decimal

/-- The shortest decimal that reads back as `mantissa * 2 ^ exponent`.
Seventeen digits always do. -/
def shortest (tie : Tie) (mantissa : Nat) (exponent : Int) : Decimal :=
  if mantissa = 0 then ⟨0, 0⟩
  else
    let power := powerAbove mantissa exponent - 1
    dropZeros 17 (firstHit (interval mantissa exponent) tie 17 power)

end Number

/-! ## Writing -/

/-- A decimal in positional notation, with as many zeros as its power asks for
and no exponent. -/
def Decimal.positional (decimal : Decimal) : String :=
  let digits := (toString decimal.digits).toList
  if 0 ≤ decimal.exponent then
    String.ofList (digits ++ List.replicate decimal.exponent.toNat '0')
  else
    let places := (-decimal.exponent).toNat
    let whole := digits.length - places
    let zeros := List.replicate (places - digits.length) '0'
    let front := if whole = 0 then ['0'] else digits.take whole
    String.ofList (front ++ '.' :: zeros ++ digits.drop whole)

/-- The power of ten of the first digit of a decimal. -/
def Decimal.magnitude (decimal : Decimal) : Int :=
  decimal.exponent + ((toString decimal.digits).length - 1 : Nat)

/-- A decimal in scientific notation: one digit before the point, and an exponent
with its sign. -/
def Decimal.scientific (decimal : Decimal) : String :=
  let exponent := decimal.magnitude
  let sign := if exponent < 0 then "-" else "+"
  let point := match (toString decimal.digits).toList with
    | [] => []
    | [digit] => [digit]
    | digit :: rest => digit :: '.' :: rest
  String.ofList point ++ "e" ++ sign ++ toString exponent.natAbs

/-- The sign of a written number. -/
def Number.minusSign (isNegative : Bool) : String :=
  if isNegative then "-" else ""

/-- The text of a number.  Integers below `10 ^ 21` are written in full and zero
has no sign; any other finite number has its shortest digits in positional
notation, the larger ones of a tie. -/
def Number.text : Number → String
  | .nan => "NaN"
  | .infinite isNegative => minusSign isNegative ++ "Infinity"
  | x@(.finite isNegative mantissa exponent _) =>
    match x.toInt? with
    | some n =>
      if n.natAbs < Nat.pow 10 21 then toString n
      else minusSign isNegative ++ (shortest .up mantissa exponent).positional
    | none => minusSign isNegative ++ (shortest .up mantissa exponent).positional

end TemplateLang
