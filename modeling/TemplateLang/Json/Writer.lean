import TemplateLang.Value.Basic

/-!
# Writing values as JSON text

The text is compact: no blanks, entries in insertion order.  `undefined`, NaN
and the infinities are written as `null`.  Integers below `2 ^ 53` are written in
full; every other number has its shortest digits and keeps a point or an
exponent, so that it reads as a fraction.
-/

namespace TemplateLang.Json

/-- The lower-case hexadecimal digit of a value below sixteen. -/
def hexDigit (value : Nat) : Char :=
  if value < 10 then Char.ofNat ('0'.toNat + value) else Char.ofNat ('a'.toNat + (value - 10))

/-- A character inside a JSON string.  Quotes, backslashes and control characters
are escaped and all else stands for itself. -/
def escape (c : Char) : List Char :=
  if c = '"' then ['\\', '"']
  else if c = '\\' then ['\\', '\\']
  else if c = '\x08' then ['\\', 'b']
  else if c = '\x0c' then ['\\', 'f']
  else if c = '\n' then ['\\', 'n']
  else if c = '\r' then ['\\', 'r']
  else if c = '\t' then ['\\', 't']
  else if c.toNat < 32 then
    ['\\', 'u', '0', '0', hexDigit (c.toNat / 16), hexDigit (c.toNat % 16)]
  else [c]

/-- A JSON string. -/
def encodeText (text : List Char) : List Char :=
  '"' :: text.flatMap escape ++ ['"']

/-- Integers of this magnitude and above are written as fractions. -/
def integerBound : Nat :=
  Nat.pow 2 53

/-- A finite number as a fraction: positional from `10 ^ -5` to `10 ^ 16`,
scientific beyond. -/
def encodeFraction (isNegative : Bool) (mantissa : Nat) (exponent : Int) : String :=
  let decimal := Number.shortest .toEven mantissa exponent
  let magnitude := decimal.magnitude
  let digits :=
    if -5 ≤ magnitude ∧ magnitude < 16 then
      if 0 ≤ decimal.exponent then decimal.positional ++ ".0" else decimal.positional
    else decimal.scientific
  Number.minusSign isNegative ++ digits

/-- A JSON number, or `null` for what is not finite. -/
def encodeNumber : Number → String
  | .nan | .infinite _ => "null"
  | x@(.finite isNegative mantissa exponent _) =>
    match x.toInt? with
    | some n =>
      if n.natAbs < integerBound then toString n
      else encodeFraction isNegative mantissa exponent
    | none => encodeFraction isNegative mantissa exponent

mutual

/-- The JSON text of a value. -/
def encode : Value → List Char
  | .undefined | .null => "null".toList
  | .bool true => "true".toList
  | .bool false => "false".toList
  | .number x => (encodeNumber x).toList
  | .text s => encodeText s.toList
  | .array items => '[' :: encodeItems items ++ [']']
  | .object entries => '\x7b' :: encodeEntries entries ++ ['\x7d']

/-- The items of an array with commas between. -/
def encodeItems : List Value → List Char
  | [] => []
  | [item] => encode item
  | item :: rest => encode item ++ ',' :: encodeItems rest

/-- The entries of an object with commas between. -/
def encodeEntries : List (String × Value) → List Char
  | [] => []
  | [(key, value)] => encodeText key.toList ++ ':' :: encode value
  | (key, value) :: rest =>
    encodeText key.toList ++ ':' :: encode value ++ ',' :: encodeEntries rest

end

/-- The compact JSON text of a value. -/
def write (value : Value) : String :=
  String.ofList (encode value)

end TemplateLang.Json
