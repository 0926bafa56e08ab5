import TemplateLang.Unicode.Printable

/-!
# Texts shown in quotes

A listing shows a text with its invisible characters escaped.  Two forms differ in
small ways: a text in double quotes escapes only those quotes and every character
that would attach to the one before it; the inside of a string literal escapes
both quotes, and such a character only at the start.
-/

namespace TemplateLang.Quoted

/-- The lower-case hexadecimal digits of a number. -/
def hexadecimal (n : Nat) : List Char :=
  Nat.toDigits 16 n

/-- An escape by code point. -/
def codeEscape (c : Char) : List Char :=
  ['\\', 'u', '\x7b'] ++ hexadecimal c.toNat ++ ['\x7d']

/-- A character in a quoted text.  `quotes` are the quotes that are escaped, and
`separate` tells that it must not attach to the character before it. -/
def escape (quotes : List Char) (separate : Bool) (c : Char) : List Char :=
  if c = '\x00' then ['\\', '0']
  else if c = '\t' then ['\\', 't']
  else if c = '\r' then ['\\', 'r']
  else if c = '\n' then ['\\', 'n']
  else if c = '\\' then ['\\', '\\']
  else if quotes.contains c then ['\\', c]
  else if separate && Unicode.isExtender c then codeEscape c
  else if Unicode.isPrintable c then [c]
  else codeEscape c

/-- A text in double quotes. -/
def inQuotes (text : String) : String :=
  String.ofList ('"' :: text.toList.flatMap (escape ['"'] true) ++ ['"'])

/-- The inside of a string literal. -/
def inside (text : String) : String :=
  match text.toList with
  | [] => ""
  | first :: rest =>
    String.ofList (escape ['"', '\''] true first ++ rest.flatMap (escape ['"', '\''] false))

end TemplateLang.Quoted
