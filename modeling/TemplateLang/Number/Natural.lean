import TemplateLang.Number.Decimal

/-!
# Natural numbers in decimal digits

The reading of indexes and counts from text.
-/

namespace TemplateLang

/-- The natural number that a text writes in decimal digits, perhaps after a plus,
below a bound. -/
def naturalBelow? (bound : Nat) (text : List Char) : Option Nat :=
  let digits := match text with
    | '+' :: rest => rest
    | text => text
  if !digits.isEmpty && digits.all Char.isDigit && naturalOfDigits 10 digits < bound then
    some (naturalOfDigits 10 digits)
  else none

/-- A bound on sizes, and so on the indexes that can be written. -/
def sizeBound : Nat :=
  Nat.pow 2 64

end TemplateLang
