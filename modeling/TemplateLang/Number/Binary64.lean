/-!
# Binary floating-point numbers

`Number` is the double-precision format: NaN, the two infinities, and the
signed numbers `m * 2 ^ e` with a mantissa below `2 ^ 53` and an exponent from
`-1074` to `971`.  A finite number has one representation, which its proof
field states, so equal constructors mean equal numbers and the two zeros stay
apart.

All arithmetic is exact on natural numbers and integers, followed by one
rounding to the nearest number, ties to the even mantissa.
-/

namespace TemplateLang

namespace Number

/-- The mantissas and exponents in use: the mantissa has its full 53 bits
unless the exponent is the least one. -/
def Canonical (mantissa : Nat) (exponent : Int) : Prop :=
  mantissa < Nat.pow 2 53 ∧ -1074 ≤ exponent ∧ exponent ≤ 971 ∧
    (Nat.pow 2 52 ≤ mantissa ∨ exponent = -1074)

instance (mantissa : Nat) (exponent : Int) : Decidable (Canonical mantissa exponent) :=
  inferInstanceAs (Decidable (_ ∧ _ ∧ _ ∧ (_ ∨ _)))

end Number

/-- A double-precision number. -/
inductive Number where
  | nan
  | infinite (isNegative : Bool)
  | finite (isNegative : Bool) (mantissa : Nat) (exponent : Int)
      (canonical : Number.Canonical mantissa exponent)
deriving DecidableEq, Repr

namespace Number

/-! ## Rounding -/

/-- The zero of a sign. -/
def zero (isNegative : Bool) : Number :=
  .finite isNegative 0 (-1074) (by decide)

/-- The quotient of two naturals rounded to the nearest, ties to even. -/
def divideNearest (numerator denominator : Nat) : Nat :=
  let quotient := numerator / denominator
  let twice := 2 * (numerator % denominator)
  if twice > denominator ∨ (twice = denominator ∧ quotient % 2 = 1) then quotient + 1
  else quotient

/-- `mantissa / 2 ^ drop`, rounded; a negative `drop` multiplies. -/
def shiftNearest (mantissa : Nat) (drop : Int) : Nat :=
  if drop ≤ 0 then mantissa * Nat.pow 2 (-drop).toNat
  else divideNearest mantissa (Nat.pow 2 drop.toNat)

/-- A finite number if its parts are canonical, else the infinity of its sign. -/
def pack (isNegative : Bool) (mantissa : Nat) (exponent : Int) : Number :=
  if h : Canonical mantissa exponent then .finite isNegative mantissa exponent h
  else .infinite isNegative

/-- The number of low bits that do not fit beside the 53 leading ones, or below
the least exponent. -/
def excess (mantissa : Nat) (exponent : Int) : Int :=
  max ((Nat.log2 mantissa : Int) - 52) (-1074 - exponent)

/-- The number nearest to `± mantissa * 2 ^ exponent`. -/
def round (isNegative : Bool) (mantissa : Nat) (exponent : Int) : Number :=
  if mantissa = 0 then zero isNegative
  else
    let drop := excess mantissa exponent
    let kept := shiftNearest mantissa drop
    if kept = Nat.pow 2 53 then pack isNegative (Nat.pow 2 52) (exponent + drop + 1)
    else pack isNegative kept (exponent + drop)

/-- The number nearest to `± numerator / denominator * 2 ^ exponent`.  The
quotient is taken to more than 60 bits and one more bit that tells whether
anything was left, which is as good as the exact quotient for rounding. -/
def roundRatio (isNegative : Bool) (numerator denominator : Nat) (exponent : Int) : Number :=
  let extra := 64 + Nat.log2 denominator
  let scaled := numerator * Nat.pow 2 extra
  let sticky := if scaled % denominator = 0 then 0 else 1
  round isNegative (2 * (scaled / denominator) + sticky) (exponent - extra - 1)

/-- The number nearest to an integer. -/
def ofInt (n : Int) : Number :=
  round (n < 0) n.natAbs 0

instance : Inhabited Number :=
  ⟨zero false⟩

/-! ## Classes and parts -/

/-- The sign of a number; NaN has none. -/
def isNegative : Number → Bool
  | nan => false
  | infinite s => s
  | finite s _ _ _ => s

def isNaN : Number → Bool
  | nan => true
  | _ => false

/-- Zero of either sign. -/
def isZero : Number → Bool
  | finite _ 0 _ _ => true
  | _ => false

/-- An integer with a sign and a magnitude. -/
def signed (isNegative : Bool) (magnitude : Nat) : Int :=
  if isNegative then -(magnitude : Int) else magnitude

/-- The integer in a signed finite number of units `2 ^ unit`, for a unit at
or below its exponent. -/
def inUnits (isNegative : Bool) (mantissa : Nat) (exponent unit : Int) : Int :=
  signed isNegative (mantissa * Nat.pow 2 (exponent - unit).toNat)

/-- The integer part of a finite number, toward zero. -/
def truncate? : Number → Option Int
  | finite s m e _ =>
    some (signed s (if 0 ≤ e then m * Nat.pow 2 e.toNat else m / Nat.pow 2 (-e).toNat))
  | _ => none

/-- Whether a finite number has no fraction. -/
def isIntegral : Number → Bool
  | finite _ m e _ => 0 ≤ e || m % Nat.pow 2 (-e).toNat = 0
  | _ => false

/-- The integer that a number is. -/
def toInt? (x : Number) : Option Int :=
  if x.isIntegral then x.truncate? else none

/-- The integer part of a number, wrapped into the signed 32-bit range; zero for
what is not finite. -/
def toInt32 (x : Number) : Int :=
  match x.truncate? with
  | some n => n.bmod (Nat.pow 2 32)
  | none => 0

/-! ## Order -/

/-- The order of two numbers; NaN has none, and the zeros are equal. -/
def compare? : Number → Number → Option Ordering
  | nan, _ => none
  | _, nan => none
  | infinite s, infinite t => some (compare (signed s 1) (signed t 1))
  | infinite s, finite _ _ _ _ => some (if s then .lt else .gt)
  | finite _ _ _ _, infinite t => some (if t then .gt else .lt)
  | finite s m e _, finite t n f _ =>
    let unit := min e f
    some (compare (inUnits s m e unit) (inUnits t n f unit))

/-- Equality of values: NaN differs from itself, and the zeros are equal. -/
def equals (x y : Number) : Bool :=
  x.compare? y == some .eq

def less (x y : Number) : Bool :=
  x.compare? y == some .lt

def lessEqual (x y : Number) : Bool :=
  x.less y || x.equals y

/-! ## Arithmetic -/

protected def neg : Number → Number
  | nan => nan
  | infinite s => infinite (!s)
  | finite s m e h => finite (!s) m e h

/-- The sum.  An exact zero is positive unless both operands are negative. -/
protected def add : Number → Number → Number
  | nan, _ => nan
  | _, nan => nan
  | infinite s, infinite t => if s = t then infinite s else nan
  | infinite s, finite _ _ _ _ => infinite s
  | finite _ _ _ _, infinite t => infinite t
  | finite s m e _, finite t n f _ =>
    let unit := min e f
    let sum := inUnits s m e unit + inUnits t n f unit
    if sum = 0 then zero (s && t) else round (sum < 0) sum.natAbs unit

protected def sub (x y : Number) : Number :=
  x.add y.neg

protected def mul : Number → Number → Number
  | nan, _ => nan
  | _, nan => nan
  | infinite s, infinite t => infinite (s ^^ t)
  | infinite s, finite t n _ _ => if n = 0 then nan else infinite (s ^^ t)
  | finite s m _ _, infinite t => if m = 0 then nan else infinite (s ^^ t)
  | finite s m e _, finite t n f _ => round (s ^^ t) (m * n) (e + f)

protected def div : Number → Number → Number
  | nan, _ => nan
  | _, nan => nan
  | infinite _, infinite _ => nan
  | infinite s, finite t _ _ _ => infinite (s ^^ t)
  | finite s _ _ _, infinite t => zero (s ^^ t)
  | finite s m e _, finite t n f _ =>
    if n = 0 then if m = 0 then nan else infinite (s ^^ t)
    else roundRatio (s ^^ t) m n (e - f)

/-- The remainder of truncated division, exact, with the sign of the dividend. -/
protected def rem : Number → Number → Number
  | nan, _ => nan
  | _, nan => nan
  | infinite _, _ => nan
  | finite s m e h, infinite _ => finite s m e h
  | finite s m e _, finite _ n f _ =>
    if n = 0 then nan
    else
      let unit := min e f
      round s ((m * Nat.pow 2 (e - unit).toNat) % (n * Nat.pow 2 (f - unit).toNat)) unit

instance : Neg Number := ⟨Number.neg⟩
instance : Add Number := ⟨Number.add⟩
instance : Sub Number := ⟨Number.sub⟩
instance : Mul Number := ⟨Number.mul⟩
instance : Div Number := ⟨Number.div⟩
instance : Mod Number := ⟨Number.rem⟩

end Number

end TemplateLang
