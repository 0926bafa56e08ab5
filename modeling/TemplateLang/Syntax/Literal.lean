import TemplateLang.Number.Decimal
import TemplateLang.Syntax.Fault
import TemplateLang.Syntax.Word

/-!
# Literals and comments

Scanners for comments, string literals and numeric literals.  A scanner finds its
literal at a cursor, or finds that none starts there, or finds one that is broken:
then it tells the fault, its span, and the place at which it gave up.
-/

namespace TemplateLang

/-- What a scanner finds at a cursor. -/
inductive Scan (α : Type) where
  | found (value : α) (next : Cursor)
  | absent
  | broken (fault : Fault) (span : Span) (stop : Cursor)
deriving DecidableEq, Repr

namespace Scan

variable {α β : Type}

/-- Go on after what was found. -/
def andThen (scan : Scan α) (continue' : α → Cursor → Scan β) : Scan β :=
  match scan with
  | found value next => continue' value next
  | absent => absent
  | broken fault span stop => broken fault span stop

/-- Change what was found. -/
def map (f : α → β) (scan : Scan α) : Scan β :=
  scan.andThen fun value next => .found (f value) next

/-- Try another scanner if nothing starts here. -/
def orElse (scan other : Scan α) : Scan α :=
  match scan with
  | absent => other
  | scan => scan

end Scan

namespace Literal

/-! ## Comments -/

/-- The mark that opens a comment. -/
def commentOpening : List Char :=
  ['/', '*']

/-- The mark that closes a comment. -/
def commentClosing : List Char :=
  ['*', '/']

/-- A block comment; its body is kept as it is. -/
def comment (cursor : Cursor) : Scan Comment :=
  if cursor.isAt commentOpening then
    let inside := cursor.skip 2
    match cutBefore? commentClosing inside.rest with
    | some (body, _) =>
      let next := inside.skip (body.length + 2)
      .found ⟨String.ofList body, cursor.spanTo next⟩ next
    | none => .broken .unclosedComment (cursor.spanTo inside) cursor
  else .absent

/-! ## Strings -/

/-- The character that a letter stands for after a backslash. -/
def simpleEscape? : Char → Option Char
  | 'n' => some '\n'
  | 'r' => some '\r'
  | 't' => some '\t'
  | 'b' => some '\x08'
  | 'f' => some '\x0c'
  | 'v' => some '\x0b'
  | '\\' => some '\\'
  | '/' => some '/'
  | '\'' => some '\''
  | '"' => some '"'
  | '0' => some '\x00'
  | _ => none

/-- Blanks that a backslash removes from a string, line breaks among them. -/
def isContinuation (c : Char) : Bool :=
  c = ' ' || c = '\t' || c = '\r' || c = '\n'

/-- The character with a code point; surrogates have none. -/
def charOfCode? (code : Nat) : Option Char :=
  if h : code.isValidChar then some (Char.ofNatAux code h) else none

/-- A hexadecimal digit. -/
def isHexDigit (c : Char) : Bool :=
  isDigitOf 16 c

/-- An escape by code point: `cursor` is after its `u`, `start` at its
backslash. -/
def unicodeEscape (start cursor : Cursor) : Scan Char :=
  let broken (fault : Fault) (stop : Cursor) : Scan Char :=
    .broken fault (start.spanTo stop) stop
  match cursor.rest with
  | '\x7b' :: _ =>
    let inside := cursor.skip 1
    let digits := (inside.rest.takeWhile isHexDigit).take 6
    let after := inside.skip digits.length
    if digits.isEmpty then broken .emptyUnicodeEscape after
    else
      match after.rest with
      | '\x7d' :: _ =>
        let next := after.skip 1
        match charOfCode? (naturalOfDigits 16 digits) with
        | some c => .found c next
        | none => broken .invalidCodepoint next
      | _ => broken .malformedUnicodeEscape after
  | _ => broken .malformedUnicodeEscape cursor

/-- An escape at its backslash: one character, or none for a continued line. -/
def escape (start : Cursor) : Scan (Option Char) :=
  let cursor := start.skip 1
  match cursor.rest with
  | 'u' :: _ => (unicodeEscape start (cursor.skip 1)).map some
  | c :: _ =>
    match simpleEscape? c with
    | some meant => .found (some meant) (cursor.skip 1)
    | none =>
      if isContinuation c then .found none (cursor.skipWhile isContinuation)
      else .broken .invalidEscape (start.spanTo cursor) cursor
  | [] => .broken .invalidEscape (start.spanTo cursor) cursor

/-- The characters of a string up to and with its closing quote.  `start` is at
the opening quote.  Every step moves forward, so the number of bytes left is
enough `fuel`. -/
def stringBody (quote : Quote) (start : Cursor) : Nat → Cursor → Scan (List Char)
  | 0, cursor => .broken (.unterminatedString quote) (start.spanTo cursor) cursor
  | fuel + 1, cursor =>
    match cursor.rest with
    | [] => .broken (.unterminatedString quote) (start.spanTo cursor) cursor
    | c :: _ =>
      if c = quote.char then .found [] (cursor.skip 1)
      else if c = '\\' then
        (escape cursor).andThen fun meant next =>
          (stringBody quote start fuel next).map fun rest => meant.toList ++ rest
      else if c = '\n' ∨ c = '\r' then
        .broken (.unterminatedString quote) (start.spanTo cursor) cursor
      else (stringBody quote start fuel (cursor.skip 1)).map fun rest => c :: rest

/-- The quote at a cursor. -/
def quote? (cursor : Cursor) : Option Quote :=
  match cursor.rest with
  | '"' :: _ => some .double
  | '\'' :: _ => some .single
  | _ => none

/-- A string literal in either quote, on one line but for continuations. -/
def string (cursor : Cursor) : Scan (String × Quote) :=
  match quote? cursor with
  | some quote =>
    (stringBody quote cursor cursor.room (cursor.skip 1)).map fun chars =>
      (String.ofList chars, quote)
  | none => .absent

/-! ## Numbers -/

/-- The base that a letter after a leading zero announces, and its name. -/
def radix? : Char → Option (Nat × String)
  | 'b' | 'B' => some (2, "binary")
  | 'o' | 'O' => some (8, "octal")
  | 'x' | 'X' => some (16, "hexadecimal")
  | _ => none

/-- The number of a digit. -/
def digitNumber (c : Char) : Number :=
  Number.ofInt ((digitValue? c).getD 0 : Nat)

/-- The number that digits write in a base, rounded after each digit. -/
def radixValue (base : Nat) (digits : List Char) : Number :=
  digits.foldl (fun total c => total * Number.ofInt base + digitNumber c) (Number.zero false)

/-- The digits of a number in a base, `start` being at its leading zero.  The whole
run of word characters belongs to the literal and must consist of digits. -/
def radixDigits (start cursor : Cursor) (base : Nat) (name : String) : Scan Number :=
  let digits := cursor.rest.takeWhile isWordChar
  let next := cursor.skip digits.length
  if digits.isEmpty || !digits.all (isDigitOf base) then
    .broken (.invalidRadix name) (start.spanTo next) next
  else .found (radixValue base digits) next

/-- Decimal digits at a cursor. -/
def decimalDigits (cursor : Cursor) : List Char :=
  cursor.rest.takeWhile Char.isDigit

/-- Whether a decimal literal starts with a text: a digit, or a point and a
digit. -/
def startsDecimal : List Char → Bool
  | '.' :: c :: _ => c.isDigit
  | c :: _ => c.isDigit
  | [] => false

/-- The exponent of a literal after its letter. -/
def exponent (start cursor : Cursor) : Scan Int :=
  let isNegative := cursor.rest.head? = some '-'
  let signed := isNegative || cursor.rest.head? = some '+'
  let digitsAt := if signed then cursor.skip 1 else cursor
  let digits := decimalDigits digitsAt
  let next := digitsAt.skip digits.length
  if digits.isEmpty then .broken .invalidExponent (start.spanTo next) next
  else .found (Number.signed isNegative (naturalOfDigits 10 digits)) next

/-- A decimal literal: digits, perhaps a point and more digits, perhaps an
exponent. -/
def decimal (start : Cursor) : Scan Number :=
  let whole := decimalDigits start
  let afterWhole := start.skip whole.length
  let (fraction, afterFraction) := match afterWhole.rest with
    | '.' :: _ =>
      let cursor := afterWhole.skip 1
      let digits := decimalDigits cursor
      (digits, cursor.skip digits.length)
    | _ => ([], afterWhole)
  let value (exponent : Int) : Number :=
    Number.ofDecimal false ⟨naturalOfDigits 10 (whole ++ fraction), exponent - fraction.length⟩
  match afterFraction.rest.head? with
  | some 'e' | some 'E' => (exponent start (afterFraction.skip 1)).map value
  | _ => .found (value 0) afterFraction

/-- A numeric literal.  A base announced after a leading zero is binding. -/
def number (cursor : Cursor) : Scan Number :=
  let announced := match cursor.rest with
    | '0' :: letter :: _ => radix? letter
    | _ => none
  match announced with
  | some (base, name) => radixDigits cursor (cursor.skip 2) base name
  | none => if startsDecimal cursor.rest then decimal cursor else .absent

end Literal

end TemplateLang
