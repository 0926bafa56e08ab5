import TemplateLang.Toml.Scalar
import TemplateLang.Toml.Tree

/-!
# Reading TOML documents

A document is a list of lines: a key with a value, a header that names the table of
the lines after it, or nothing.  Its value is a table in which all keys are in order.
Dates have no value and are refused.
-/

namespace TemplateLang.Toml

/-! ## Blanks and comments -/

/-- A text without blanks at its start. -/
def skipBlanks (text : List Char) : List Char :=
  text.dropWhile isBlank

/-- What stands after a comment at the start of a text. -/
def afterComment? (text : List Char) : Option (List Char) :=
  match text with
  | '#' :: rest =>
    let rest := rest.dropWhile (!isControl ·)
    match rest with
    | [] | '\n' :: _ | '\r' :: '\n' :: _ => some rest
    | _ => none
  | text => some text

/-- What stands after the rest of a line that says nothing. -/
def afterLine? (text : List Char) : Option (List Char) := do
  match ← afterComment? (skipBlanks text) with
  | [] => some []
  | '\n' :: rest => some rest
  | '\r' :: '\n' :: rest => some rest
  | _ => none

/-- What stands after blanks, comments and line ends. -/
def skipLines? : Nat → List Char → Option (List Char)
  | 0, text => some text
  | fuel + 1, text =>
    match skipBlanks text with
    | '#' :: rest => do skipLines? fuel (← afterComment? ('#' :: rest))
    | '\n' :: rest => skipLines? fuel rest
    | '\r' :: '\n' :: rest => skipLines? fuel rest
    | rest => some rest

/-! ## Keys -/

/-- Characters of keys without quotes. -/
def isKeyChar (c : Char) : Bool :=
  c.isAlphanum || c = '_' || c = '-'

/-- One part of a key, and the text after it. -/
def readKeyPart? (text : List Char) : Option (String × List Char) :=
  match text with
  | '"' :: _ | '\'' :: _ => readShortString? text
  | text =>
    let word := text.takeWhile isKeyChar
    if word.isEmpty then none else some (String.ofList word, text.dropWhile isKeyChar)

/-- The parts of a key with dots between, and the text after it and its blanks. -/
def readKey? : Nat → List Char → Option (List String × List Char)
  | 0, _ => none
  | fuel + 1, text => do
    let (key, rest) ← readKeyPart? (skipBlanks text)
    match skipBlanks rest with
    | '.' :: rest => do
      let (keys, rest) ← readKey? fuel rest
      some (key :: keys, rest)
    | rest => some ([key], rest)

/-! ## Values -/

/-- The deepest nesting of arrays and tables in braces. -/
def maxDepth : Nat :=
  80

mutual

/-- A value, and the text after it. -/
def readValue? : Nat → Nat → List Char → Option (Value × List Char)
  | 0, _, _ | _, 0, _ => none
  | fuel + 1, depth + 1, text =>
    match text with
    | '"' :: _ | '\'' :: _ => (readString? text).map fun (text, rest) => (.text text, rest)
    | '[' :: rest => (readItems? fuel depth rest).map fun (items, rest) => (.array items, rest)
    | '\x7b' :: rest =>
      (readEntries? fuel depth [] rest).map fun (entries, rest) =>
        ((Node.table .named entries).value, rest)
    | text => readWord? text

/-- The items of an array, up to and with its closing bracket. -/
def readItems? : Nat → Nat → List Char → Option (List Value × List Char)
  | 0, _, _ => none
  | fuel + 1, depth, text => do
    match ← skipLines? text.length text with
    | ']' :: rest => some ([], rest)
    | text => do
      let (item, rest) ← readValue? fuel depth text
      match ← skipLines? rest.length rest with
      | ',' :: rest => do
        let (items, rest) ← readItems? fuel depth rest
        some (item :: items, rest)
      | ']' :: rest => some ([item], rest)
      | _ => none

/-- The entries of a table in braces after those read, up to and with its closing
brace. -/
def readEntries? : Nat → Nat → Entries → List Char → Option (Entries × List Char)
  | 0, _, _, _ => none
  | fuel + 1, depth, entries, text => do
    match ← skipLines? text.length text with
    | '\x7d' :: rest => some (entries, rest)
    | text => do
      let (entries, rest) ← readEntry? fuel depth [] entries text
      match ← skipLines? rest.length rest with
      | ',' :: rest => readEntries? fuel depth entries rest
      | '\x7d' :: rest => some (entries, rest)
      | _ => none

/-- A key and its value, written in the table at a place, and the text after them. -/
def readEntry? : Nat → Nat → List String → Entries → List Char → Option (Entries × List Char)
  | 0, _, _, _, _ => none
  | fuel + 1, depth, place, entries, text => do
    let (keys, rest) ← readKey? text.length text
    match rest with
    | '=' :: rest => do
      let (value, rest) ← readValue? fuel depth (skipBlanks rest)
      let entries ← Node.write place keys value entries
      some (entries, rest)
    | _ => none

end

/-! ## Documents -/

/-- The key of a header and the text after its closing mark. -/
def readHeader? (closing : List Char) (text : List Char) : Option (List String × List Char) := do
  let (keys, rest) ← readKey? text.length text
  if closing.isPrefixOf rest then some (keys, rest.drop closing.length) else none

/-- The lines of a document, of which at most `fuel` are read, written in a tree; those
with a key belong to the table at `place`. -/
def readLinesInto? : Nat → List String → Entries → List Char → Option Entries
  | 0, _, root, text => if text.isEmpty then some root else none
  | fuel + 1, place, root, text =>
    match skipBlanks text with
    | [] => some root
    | '[' :: '[' :: rest => do
      let (keys, rest) ← readHeader? [']', ']'] rest
      let root ← Node.openItem keys root
      readLinesInto? fuel keys root (← afterLine? rest)
    | '[' :: rest => do
      let (keys, rest) ← readHeader? [']'] rest
      let root ← Node.openTable keys root
      readLinesInto? fuel keys root (← afterLine? rest)
    | c :: rest =>
      if c = '#' || c = '\n' || c = '\r' then do
        readLinesInto? fuel place root (← afterLine? (c :: rest))
      else do
        let text := c :: rest
        let (root, rest) ← readEntry? (3 * text.length + 3) maxDepth place root text
        readLinesInto? fuel place root (← afterLine? rest)

/-- The table that a document is. -/
def read? (document : String) : Option (Table Value) := do
  let text := match document.toList with
    | '\uFEFF' :: rest => rest
    | text => text
  let root ← readLinesInto? (text.length + 1) [] [] text
  match (Node.table .named root).value with
  | .object entries => some entries
  | _ => none

end TemplateLang.Toml
