import TemplateLang.Value.Basic

/-!
# Scalars of TOML

Strings in quotes of four kinds, numbers and truth values.  Strings in single quotes
are taken as they are; in double ones a backslash starts an escape.  Three quotes in
place of one let a string run over several lines.
-/

namespace TemplateLang.Toml

/-! ## Strings -/

/-- Characters that stand nowhere in a text but in escapes. -/
def isControl (c : Char) : Bool :=
  (c.toNat < 32 && c ≠ '\t') || c.toNat = 127

/-- Blanks inside of a line. -/
def isBlank (c : Char) : Bool :=
  c = ' ' || c = '\t'

/-- The character of a number of hexadecimal digits, and the text after them. -/
def readHex? (count : Nat) (text : List Char) : Option (Char × List Char) :=
  let digits := text.take count
  let code := naturalOfDigits 16 digits
  if digits.length = count && digits.all (isDigitOf 16) && code.isValidChar then
    some (Char.ofNat code, text.drop count)
  else none

/-- The character of an escape, after its backslash, and the text after it. -/
def readEscape? : List Char → Option (Char × List Char)
  | 'b' :: rest => some ('\x08', rest)
  | 't' :: rest => some ('\t', rest)
  | 'n' :: rest => some ('\n', rest)
  | 'f' :: rest => some ('\x0c', rest)
  | 'r' :: rest => some ('\r', rest)
  | 'e' :: rest => some ('\x1b', rest)
  | '"' :: rest => some ('"', rest)
  | '\\' :: rest => some ('\\', rest)
  | 'x' :: rest => readHex? 2 rest
  | 'u' :: rest => readHex? 4 rest
  | 'U' :: rest => readHex? 8 rest
  | _ => none

/-- The text after blanks and line ends, if a line ends among them. -/
def afterLineEnd? (text : List Char) : Option (List Char) :=
  match text.dropWhile isBlank with
  | '\n' :: rest => some (rest.dropWhile fun c => isBlank c || c = '\n' || c = '\r')
  | '\r' :: '\n' :: rest => some (rest.dropWhile fun c => isBlank c || c = '\n' || c = '\r')
  | _ => none

/-- The characters of a string on one line, up to its closing quote, and the text
after that. -/
def readLine? (quote : Char) : Nat → List Char → Option (List Char × List Char)
  | 0, _ | _, [] => none
  | fuel + 1, c :: rest =>
    if c = quote then some ([], rest)
    else if c = '\\' && quote = '"' then do
      let (escaped, rest) ← readEscape? rest
      let (text, rest) ← readLine? quote fuel rest
      some (escaped :: text, rest)
    else if isControl c then none
    else do
      let (text, rest) ← readLine? quote fuel rest
      some (c :: text, rest)

/-- The characters of a string of several lines, up to its three closing quotes, and
the text after them.  One or two quotes before those belong to the string. -/
def readLines? (quote : Char) : Nat → List Char → Option (List Char × List Char)
  | 0, _ | _, [] => none
  | fuel + 1, c :: rest =>
    if [quote, quote, quote].isPrefixOf (c :: rest) then
      let quotes := ((c :: rest).takeWhile (· = quote)).length
      if quotes ≤ 5 then
        some (List.replicate (quotes - 3) quote, (c :: rest).drop quotes)
      else none
    else if c = '\\' && quote = '"' then
      match afterLineEnd? rest with
      | some rest => readLines? quote fuel rest
      | none => do
        let (escaped, rest) ← readEscape? rest
        let (text, rest) ← readLines? quote fuel rest
        some (escaped :: text, rest)
    else if c = '\r' then
      match rest with
      | '\n' :: rest => do
        let (text, rest) ← readLines? quote fuel rest
        some ('\n' :: text, rest)
      | _ => none
    else if isControl c && c ≠ '\n' then none
    else do
      let (text, rest) ← readLines? quote fuel rest
      some (c :: text, rest)

/-- A text without the line end that begins it. -/
def dropLineEnd : List Char → List Char
  | '\n' :: rest => rest
  | '\r' :: '\n' :: rest => rest
  | text => text

/-- A string on one line, from its quote on. -/
def readShortString? : List Char → Option (String × List Char)
  | '"' :: rest => (readLine? '"' rest.length rest).map fun (text, rest) =>
      (String.ofList text, rest)
  | '\'' :: rest => (readLine? '\'' rest.length rest).map fun (text, rest) =>
      (String.ofList text, rest)
  | _ => none

/-- A string, from its quotes on. -/
def readString? : List Char → Option (String × List Char)
  | '"' :: '"' :: '"' :: rest =>
    (readLines? '"' rest.length (dropLineEnd rest)).map fun (text, rest) =>
      (String.ofList text, rest)
  | '\'' :: '\'' :: '\'' :: rest =>
    (readLines? '\'' rest.length (dropLineEnd rest)).map fun (text, rest) =>
      (String.ofList text, rest)
  | text => readShortString? text

/-! ## Numbers and truth values -/

/-- Whether two underscores stand together. -/
def hasDoubledUnderscore : List Char → Bool
  | '_' :: '_' :: _ => true
  | _ :: rest => hasDoubledUnderscore rest
  | [] => false

/-- The digits of a text, in which underscores stand only between digits. -/
def digitsOf? (isDigit : Char → Bool) (text : List Char) : Option (List Char) :=
  let ends := text.head?.any isDigit && text.getLast?.any isDigit
  if ends && !hasDoubledUnderscore text && text.all fun c => isDigit c || c = '_' then
    some (text.filter (· ≠ '_'))
  else none

/-- The digits of a number in base ten, which does not start with a zero that says
nothing. -/
def decimalDigits? (text : List Char) : Option (List Char) := do
  let digits ← digitsOf? Char.isDigit text
  if digits.length ≤ 1 || digits.head? ≠ some '0' then some digits else none

/-- An integer that fits into sixty-four bits, with or without a sign. -/
def integer? (n : Int) : Option Value :=
  if -(Nat.pow 2 63 : Int) ≤ n ∧ n < (Nat.pow 2 64 : Int) then some (.number (Number.ofInt n))
  else none

/-- A sign and the text after it. -/
def splitSign : List Char → Bool × List Char
  | '-' :: rest => (true, rest)
  | '+' :: rest => (false, rest)
  | text => (false, text)

/-- The digits of an exponent, with their sign. -/
def exponent? (text : List Char) : Option Int := do
  let (isNegative, digits) := splitSign text
  let digits ← digitsOf? Char.isDigit digits
  let amount := (naturalOfDigits 10 digits : Int)
  some (if isNegative then -amount else amount)

/-- A number with a fraction or an exponent, without its sign. -/
def fraction? (isNegative : Bool) (text : List Char) : Option Value := do
  let isMark (c : Char) : Bool := c = 'e' || c = 'E'
  let mantissa := text.takeWhile (!isMark ·)
  let exponent ← match text.dropWhile (!isMark ·) with
    | _ :: rest => exponent? rest
    | [] => some 0
  let whole ← decimalDigits? (mantissa.takeWhile (· ≠ '.'))
  let places ← match mantissa.dropWhile (· ≠ '.') with
    | _ :: rest => digitsOf? Char.isDigit rest
    | [] => some []
  let decimal : Decimal := ⟨naturalOfDigits 10 (whole ++ places), exponent - places.length⟩
  match Number.ofDecimal isNegative decimal with
  | .infinite _ => none
  | n => some (.number n)

/-- An integer in another base than ten. -/
def radixInteger? (base : Nat) (text : List Char) : Option Value := do
  let digits ← digitsOf? (isDigitOf base) text
  integer? (naturalOfDigits base digits : Nat)

/-- The number that a word is. -/
def number? (word : List Char) : Option Value :=
  match word with
  | '0' :: 'x' :: digits => radixInteger? 16 digits
  | '0' :: 'o' :: digits => radixInteger? 8 digits
  | '0' :: 'b' :: digits => radixInteger? 2 digits
  | word =>
    let (isNegative, digits) := splitSign word
    if digits = "inf".toList then some (.number (.infinite isNegative))
    else if digits = "nan".toList then some (.number .nan)
    else
      match decimalDigits? digits with
      | some digits =>
        let amount := (naturalOfDigits 10 digits : Int)
        integer? (if isNegative then -amount else amount)
      | none =>
        if digits.any fun c => c = '.' || c = 'e' || c = 'E' then fraction? isNegative digits
        else none

/-- Characters of words. -/
def isWordChar (c : Char) : Bool :=
  c.isAlphanum || c = '_' || c = '-' || c = '+' || c = '.'

/-- A number or a truth value, and the text after it. -/
def readWord? (text : List Char) : Option (Value × List Char) := do
  let word := text.takeWhile isWordChar
  let value ←
    if word = "true".toList then some (.bool true)
    else if word = "false".toList then some (.bool false)
    else number? word
  some (value, text.dropWhile isWordChar)

end TemplateLang.Toml
