import TemplateLang.Value.Basic

/-!
# Reading values from JSON text

The reader takes one JSON value with blanks around it.  Objects keep the order of
their keys, a repeated key takes its last value, and nesting goes 127 levels
deep.  Numbers are read as sixty-four bits of digits times a power of ten, each
step rounded.
-/

namespace TemplateLang.Json

/-- The deepest nesting of arrays and objects. -/
def maxDepth : Nat :=
  127

/-- Blanks between JSON tokens. -/
def isBlank (c : Char) : Bool :=
  c = ' ' || c = '\n' || c = '\t' || c = '\r'

def skipBlanks (text : List Char) : List Char :=
  text.dropWhile isBlank

/-! ## Strings -/

/-- The value of four hexadecimal digits and the text after them. -/
def readHex4? : List Char → Option (Nat × List Char)
  | a :: b :: c :: d :: rest => do
    let a ← digitValue? a
    let b ← digitValue? b
    let c ← digitValue? c
    let d ← digitValue? d
    some (((a * 16 + b) * 16 + c) * 16 + d, rest)
  | _ => none

/-- The character of an escape after `\u`: one unit, or a high surrogate and the
low one that must follow it. -/
def readUnicode? (text : List Char) : Option (Char × List Char) := do
  let (unit, rest) ← readHex4? text
  if 0xD800 ≤ unit ∧ unit < 0xDC00 then
    match rest with
    | '\\' :: 'u' :: after =>
      let (low, rest) ← readHex4? after
      if 0xDC00 ≤ low ∧ low < 0xE000 then
        some (Char.ofNat (0x10000 + (unit - 0xD800) * 0x400 + (low - 0xDC00)), rest)
      else none
    | _ => none
  else if 0xDC00 ≤ unit ∧ unit < 0xE000 then none
  else some (Char.ofNat unit, rest)

/-- The character that a letter stands for after a backslash. -/
def simpleEscape? : Char → Option Char
  | '"' => some '"'
  | '\\' => some '\\'
  | '/' => some '/'
  | 'b' => some '\x08'
  | 'f' => some '\x0c'
  | 'n' => some '\n'
  | 'r' => some '\r'
  | 't' => some '\t'
  | _ => none

/-- The characters of a string after its opening quote, and the text after its
closing one.  Each step takes at least one character, so the length of the text
is enough `fuel`. -/
def readText? : Nat → List Char → Option (List Char × List Char)
  | 0, _ => none
  | fuel + 1, text =>
    match text with
    | '"' :: rest => some ([], rest)
    | '\\' :: 'u' :: rest => do
      let (c, rest) ← readUnicode? rest
      let (cs, rest) ← readText? fuel rest
      some (c :: cs, rest)
    | '\\' :: letter :: rest => do
      let c ← simpleEscape? letter
      let (cs, rest) ← readText? fuel rest
      some (c :: cs, rest)
    | c :: rest =>
      if c.toNat < 32 ∨ c = '\\' then none
      else do
        let (cs, rest) ← readText? fuel rest
        some (c :: cs, rest)
    | [] => none

/-! ## Numbers -/

/-- The largest count of digits' worth that is kept. -/
def significandBound : Nat :=
  Nat.pow 2 64 - 1

/-- Read digits onto a significand while it stays within its bound; also the
digits that did not fit. -/
def addDigits : Nat → List Char → Nat × List Char
  | significand, [] => (significand, [])
  | significand, digit :: rest =>
    let next := significand * 10 + (digitValue? digit).getD 0
    if next ≤ significandBound then addDigits next rest else (significand, digit :: rest)

/-- `significand * 10 ^ exponent`, where a power beyond `10 ^ -308` is divided out
in steps.  A number too large to be finite is refused. -/
def scale? : Nat → Number → Int → Option Number
  | 0, _, _ => none
  | steps + 1, x, exponent =>
    if 0 ≤ exponent then
      if 308 < exponent then if x.isZero then some x else none
      else
        match x * Number.ofDecimal false ⟨1, exponent⟩ with
        | .infinite _ => none
        | product => some product
    else if -308 ≤ exponent then some (x / Number.ofDecimal false ⟨1, -exponent⟩)
    else if x.isZero then some x
    else scale? steps (x / Number.ofDecimal false ⟨1, 308⟩) (exponent + 308)

/-- The number of a sign, a significand and a power of ten.  Dividing by
`10 ^ 308` three times leaves zero. -/
def assemble? (isNegative : Bool) (significand : Nat) (exponent : Int) : Option Number :=
  (scale? 5 (Number.ofInt significand) exponent).map fun x =>
    if isNegative then -x else x

/-- The digits that begin a text. -/
def spanDigits (text : List Char) : List Char × List Char :=
  (text.takeWhile Char.isDigit, text.dropWhile Char.isDigit)

/-- A written exponent after its letter: its value and the text after it. -/
def readExponent? (text : List Char) : Option (Int × List Char) :=
  let (isNegative, text) := match text with
    | '+' :: rest => (false, rest)
    | '-' :: rest => (true, rest)
    | text => (false, text)
  let (digits, rest) := spanDigits text
  if digits.isEmpty then none
  else some (Number.signed isNegative (naturalOfDigits 10 digits), rest)

/-- Put a number together from its digits.  Digits of the integer part that do
not fit count as powers of ten, those of the fraction are dropped. -/
def numberOfParts? (isNegative : Bool) (whole fraction : List Char) (exponent : Option Int) :
    Option Number :=
  let (significand, surplus) := addDigits 0 whole
  let (significand, dropped) := addDigits significand fraction
  let places : Int := fraction.length - dropped.length
  let shift : Int := surplus.length - places
  if fraction.isEmpty ∧ surplus.isEmpty ∧ exponent.isNone then
    let x := Number.ofInt significand
    some (if isNegative then -x else x)
  else
    match exponent with
    | none => assemble? isNegative significand shift
    | some exponent =>
      if Nat.pow 2 31 ≤ exponent.natAbs then
        if significand = 0 ∨ exponent < 0 then some (Number.zero isNegative) else none
      else assemble? isNegative significand (shift + exponent)

/-- A number after its sign. -/
def readUnsigned? (isNegative : Bool) (text : List Char) : Option (Number × List Char) := do
  let (whole, rest) := spanDigits text
  if whole.isEmpty ∨ (whole.head? = some '0' ∧ 1 < whole.length) then none
  else
    let (fraction, rest) ← match rest with
      | '.' :: after =>
        let (digits, rest) := spanDigits after
        if digits.isEmpty then none else some (digits, rest)
      | rest => some ([], rest)
    let (exponent, rest) ← match rest with
      | 'e' :: after => (readExponent? after).map fun (e, rest) => (some e, rest)
      | 'E' :: after => (readExponent? after).map fun (e, rest) => (some e, rest)
      | rest => some (none, rest)
    let x ← numberOfParts? isNegative whole fraction exponent
    some (x, rest)

/-- A number. -/
def readNumber? : List Char → Option (Number × List Char)
  | '-' :: rest => readUnsigned? true rest
  | text => readUnsigned? false text

/-! ## Values -/

/-- The text after a word that begins it. -/
def afterWord? (word : String) (text : List Char) : Option (List Char) :=
  if word.toList.isPrefixOf text then some (text.drop word.toList.length) else none

mutual

/-- A value without blanks before it, with `depth` more levels of nesting
allowed. -/
def readValue? : Nat → Nat → List Char → Option (Value × List Char)
  | 0, _, _ => none
  | fuel + 1, depth, text =>
    match text with
    | 'n' :: _ => (afterWord? "null" text).map fun rest => (.null, rest)
    | 't' :: _ => (afterWord? "true" text).map fun rest => (.bool true, rest)
    | 'f' :: _ => (afterWord? "false" text).map fun rest => (.bool false, rest)
    | '"' :: rest => (readText? fuel rest).map fun (cs, rest) =>
        (.text (String.ofList cs), rest)
    | '[' :: rest =>
      match depth with
      | 0 => none
      | depth + 1 =>
        match skipBlanks rest with
        | ']' :: rest => some (.array [], rest)
        | rest => (readItems? fuel depth rest).map fun (items, rest) => (.array items, rest)
    | '\x7b' :: rest =>
      match depth with
      | 0 => none
      | depth + 1 =>
        match skipBlanks rest with
        | '\x7d' :: rest => some (.object [], rest)
        | rest => (readEntries? fuel depth rest).map fun (entries, rest) =>
          (.object (Table.ofEntries entries), rest)
    | _ => (readNumber? text).map fun (x, rest) => (.number x, rest)

/-- One or more items, up to and with the closing bracket. -/
def readItems? : Nat → Nat → List Char → Option (List Value × List Char)
  | 0, _, _ => none
  | fuel + 1, depth, text => do
    let (item, rest) ← readValue? fuel depth text
    match skipBlanks rest with
    | ']' :: rest => some ([item], rest)
    | ',' :: rest =>
      let (items, rest) ← readItems? fuel depth (skipBlanks rest)
      some (item :: items, rest)
    | _ => none

/-- One or more entries, up to and with the closing brace. -/
def readEntries? : Nat → Nat → List Char → Option (List (String × Value) × List Char)
  | 0, _, _ => none
  | fuel + 1, depth, text =>
    match text with
    | '"' :: rest => do
      let (key, rest) ← readText? fuel rest
      match skipBlanks rest with
      | ':' :: rest =>
        let (value, rest) ← readValue? fuel depth (skipBlanks rest)
        let entry := (String.ofList key, value)
        match skipBlanks rest with
        | '\x7d' :: rest => some ([entry], rest)
        | ',' :: rest =>
          let (entries, rest) ← readEntries? fuel depth (skipBlanks rest)
          some (entry :: entries, rest)
        | _ => none
      | _ => none
    | _ => none

end

/-- Read a whole text as one value.  Two calls take at least one character, which
bounds how deep they go. -/
def decode? (text : List Char) : Option Value := do
  let (value, rest) ← readValue? (2 * text.length + 1) maxDepth (skipBlanks text)
  if (skipBlanks rest).isEmpty then some value else none

/-- The value of a JSON text. -/
def read? (text : String) : Option Value :=
  decode? text.toList

end TemplateLang.Json
