import TemplateLang.Source.Cursor
import TemplateLang.Unicode.Letters

/-!
# Words, blanks and comments

The scanners below the level of tokens that need no error of their own kind: runs
of blanks, identifier-shaped words, and the words that are reserved.
-/

namespace TemplateLang

/-- Characters that may begin a word. -/
def isWordStart (c : Char) : Bool :=
  c.isAlpha || c = '_' || c = '$'

/-- Characters that may continue a word. -/
def isWordChar (c : Char) : Bool :=
  c.isAlphanum || c = '_' || c = '$'

/-- The words that are never variables. -/
def reservedWords : List String :=
  ["null", "undefined", "true", "false", "if", "else", "for", "break", "continue", "end"]

/-- Whether a word is reserved. -/
def isReserved (word : String) : Bool :=
  reservedWords.contains word

namespace Cursor

/-- Move past blanks. -/
def skipBlanks (cursor : Cursor) : Cursor :=
  cursor.skipWhile Unicode.isBlank

/-- Whether the text goes on with `text`. -/
def isAt (cursor : Cursor) (text : List Char) : Bool :=
  text.isPrefixOf cursor.rest

/-- The word at a cursor; empty if none starts there. -/
def word (cursor : Cursor) : List Char :=
  match cursor.rest with
  | c :: _ => if isWordStart c then cursor.rest.takeWhile isWordChar else []
  | [] => []

/-- The word at a cursor as a text, if one starts there. -/
def peekWord? (cursor : Cursor) : Option String :=
  if cursor.word.isEmpty then none else some (String.ofList cursor.word)

/-- Move past the word at a cursor. -/
def skipWord (cursor : Cursor) : Cursor :=
  cursor.skip cursor.word.length

/-- The length of the longest common beginning of two texts. -/
def commonLength : List Char → List Char → Nat
  | a :: as, b :: bs => if a = b then commonLength as bs + 1 else 0
  | _, _ => 0

/-- Move past a given word that no word character follows.  On failure, the span
of the character that broke it. -/
def expectWord (cursor : Cursor) (word : List Char) : Except Span Cursor :=
  if cursor.isAt word then
    let next := cursor.skip word.length
    match next.rest with
    | c :: _ => if isWordChar c then .error next.nextSpan else .ok next
    | [] => .ok next
  else .error (cursor.skip (commonLength word cursor.rest)).nextSpan

end Cursor

end TemplateLang
