import TemplateLang.Pattern.CharSet
import TemplateLang.Unicode.Categories
import TemplateLang.Unicode.Letters
import TemplateLang.Unicode.Scripts

/-!
# Named classes of characters

The classes that patterns name: digits, blanks and word characters, the classes in
brackets and colons, and the properties of characters by category, script or name.
Names are compared without regard to case, blanks, hyphens and underscores.
-/

namespace TemplateLang.Pattern

open Unicode

namespace CharSet

/-! ## Categories -/

def letters : CharSet :=
  ((ofRuns uppercaseLetters).union (ofRuns lowercaseLetters)).union
    ⟨titlecaseLetters ++ modifierLetters ++ otherLetters⟩

def marks : CharSet :=
  ⟨nonspacingMarks ++ spacingMarks ++ enclosingMarks⟩

def numerals : CharSet :=
  ⟨decimalDigits ++ letterNumbers ++ otherNumbers⟩

def punctuation : CharSet :=
  ⟨connectors ++ dashes ++ openings ++ closings ++ initialQuotes ++ finalQuotes ++
    otherPunctuation⟩

def symbols : CharSet :=
  ⟨mathSymbols ++ currencySymbols ++ modifierSymbols ++ otherSymbols⟩

def separators : CharSet :=
  ⟨spaces ++ lineSeparators ++ paragraphSeparators⟩

/-- All characters with a category. -/
def assigned : CharSet :=
  (((letters.union marks).union (numerals.union punctuation)).union
    (symbols.union separators)).union ⟨controls ++ formats ++ privateUse⟩

def unassigned : CharSet :=
  assigned.complement maxCode

def others : CharSet :=
  unassigned.union ⟨controls ++ formats ++ privateUse⟩

/-- The set of a category, by its short or its long name. -/
def category? : String → Option CharSet
  | "l" | "letter" => some letters
  | "lu" | "uppercaseletter" => some (ofRuns uppercaseLetters)
  | "ll" | "lowercaseletter" => some (ofRuns lowercaseLetters)
  | "lt" | "titlecaseletter" => some ⟨titlecaseLetters⟩
  | "lc" | "casedletter" =>
    some (((ofRuns uppercaseLetters).union (ofRuns lowercaseLetters)).union ⟨titlecaseLetters⟩)
  | "lm" | "modifierletter" => some ⟨modifierLetters⟩
  | "lo" | "otherletter" => some ⟨otherLetters⟩
  | "m" | "mark" | "combiningmark" => some marks
  | "mn" | "nonspacingmark" => some ⟨nonspacingMarks⟩
  | "mc" | "spacingmark" => some ⟨spacingMarks⟩
  | "me" | "enclosingmark" => some ⟨enclosingMarks⟩
  | "n" | "number" => some numerals
  | "nd" | "decimalnumber" | "digit" => some ⟨decimalDigits⟩
  | "nl" | "letternumber" => some ⟨letterNumbers⟩
  | "no" | "othernumber" => some ⟨otherNumbers⟩
  | "p" | "punctuation" | "punct" => some punctuation
  | "pc" | "connectorpunctuation" => some ⟨connectors⟩
  | "pd" | "dashpunctuation" => some ⟨dashes⟩
  | "ps" | "openpunctuation" => some ⟨openings⟩
  | "pe" | "closepunctuation" => some ⟨closings⟩
  | "pi" | "initialpunctuation" => some ⟨initialQuotes⟩
  | "pf" | "finalpunctuation" => some ⟨finalQuotes⟩
  | "po" | "otherpunctuation" => some ⟨otherPunctuation⟩
  | "s" | "symbol" => some symbols
  | "sm" | "mathsymbol" => some ⟨mathSymbols⟩
  | "sc" | "currencysymbol" => some ⟨currencySymbols⟩
  | "sk" | "modifiersymbol" => some ⟨modifierSymbols⟩
  | "so" | "othersymbol" => some ⟨otherSymbols⟩
  | "z" | "separator" => some separators
  | "zs" | "spaceseparator" => some ⟨spaces⟩
  | "zl" | "lineseparator" => some ⟨lineSeparators⟩
  | "zp" | "paragraphseparator" => some ⟨paragraphSeparators⟩
  | "c" | "other" => some others
  | "cc" | "control" | "cntrl" => some ⟨controls⟩
  | "cf" | "format" => some ⟨formats⟩
  | "co" | "privateuse" => some ⟨privateUse⟩
  | "cn" | "unassigned" => some unassigned
  | "any" => some ⟨[(0, maxCode)]⟩
  | "assigned" => some assigned
  | "ascii" => some ⟨[(0, 127)]⟩
  | _ => none

/-! ## Properties -/

/-- Letters, and marks and symbols that count as letters. -/
def alphabetic : CharSet :=
  CharSet.difference ⟨alphanumerics⟩ ⟨decimalDigits ++ otherNumbers⟩

/-- The set of a property that a character has or has not. -/
def property? : String → Option CharSet
  | "alphabetic" | "alpha" => some alphabetic
  | "uppercase" | "upper" => some (ofRuns uppercases)
  | "lowercase" | "lower" => some (ofRuns lowercases)
  | "whitespace" | "wspace" | "space" => some ⟨blanks⟩
  | _ => none

/-- The set of a script. -/
def script? (name : String) : Option CharSet :=
  (scripts.lookup name).map (⟨·⟩)

/-- A name in the form in which names are compared.  An `is` in front says nothing,
except in `isc`, which is a name of its own. -/
def looseName (name : List Char) : String :=
  let kept := (name.filter fun c => !isBlank c && c ≠ '_' && c ≠ '-').map Char.toLower
  String.ofList (match kept with
    | ['i', 's', 'c'] => kept
    | 'i' :: 's' :: c :: rest => c :: rest
    | kept => kept)

/-- The set that a name alone stands for. -/
def named? (name : List Char) : Option CharSet :=
  let name := looseName name
  ((property? name).orElse fun _ => category? name).orElse fun _ => script? name

/-- The set of a property with a value. -/
def valued? (property value : List Char) : Option CharSet :=
  let value := looseName value
  match looseName property with
  | "generalcategory" | "gc" => category? value
  | "script" | "sc" | "scriptextensions" | "scx" => script? value
  | _ => none

/-! ## Short classes -/

/-- Symbols that are letters in a circle or a square. -/
def letterSymbols : List (Nat × Nat) :=
  [(0x24B6, 0x24E9), (0x1F130, 0x1F149), (0x1F150, 0x1F169), (0x1F170, 0x1F189)]

/-- The two characters that join others or keep them apart. -/
def joiners : List (Nat × Nat) :=
  [(0x200C, 0x200D)]

/-- The characters of words. -/
def wordChars : CharSet :=
  (letters.union marks).union
    ⟨decimalDigits ++ letterNumbers ++ connectors ++ letterSymbols ++ joiners⟩

def asciiWordChars : CharSet :=
  ⟨[(0x30, 0x39), (0x41, 0x5A), (0x5F, 0x5F), (0x61, 0x7A)]⟩

def asciiDigits : CharSet :=
  ⟨[(0x30, 0x39)]⟩

def asciiBlanks : CharSet :=
  ⟨[(0x09, 0x0D), (0x20, 0x20)]⟩

/-- Whether a character belongs to words. -/
def isWordChar (inUnicode : Bool) (c : Char) : Bool :=
  if c.toNat < 128 || !inUnicode then asciiWordChars.holds c else wordChars.holds c

/-- The set of a class letter. -/
def shorthand? (inUnicode : Bool) : Char → Option CharSet
  | 'd' => some (if inUnicode then ⟨decimalDigits⟩ else asciiDigits)
  | 's' => some (if inUnicode then ⟨blanks⟩ else asciiBlanks)
  | 'w' => some (if inUnicode then wordChars else asciiWordChars)
  | _ => none

/-- The set of a class between brackets and colons. -/
def bracketed? : String → Option CharSet
  | "alnum" => some ⟨[(0x30, 0x39), (0x41, 0x5A), (0x61, 0x7A)]⟩
  | "alpha" => some ⟨[(0x41, 0x5A), (0x61, 0x7A)]⟩
  | "ascii" => some ⟨[(0x00, 0x7F)]⟩
  | "blank" => some ⟨[(0x09, 0x09), (0x20, 0x20)]⟩
  | "cntrl" => some ⟨[(0x00, 0x1F), (0x7F, 0x7F)]⟩
  | "digit" => some asciiDigits
  | "graph" => some ⟨[(0x21, 0x7E)]⟩
  | "lower" => some ⟨[(0x61, 0x7A)]⟩
  | "print" => some ⟨[(0x20, 0x7E)]⟩
  | "punct" => some ⟨[(0x21, 0x2F), (0x3A, 0x40), (0x5B, 0x60), (0x7B, 0x7E)]⟩
  | "space" => some asciiBlanks
  | "upper" => some ⟨[(0x41, 0x5A)]⟩
  | "word" => some asciiWordChars
  | "xdigit" => some ⟨[(0x30, 0x39), (0x41, 0x46), (0x61, 0x66)]⟩
  | _ => none

end CharSet

end TemplateLang.Pattern
