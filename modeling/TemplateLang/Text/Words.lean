import TemplateLang.Unicode.CaseMapping
import TemplateLang.Unicode.Letters

/-!
# Words and their case

A text is split into words at characters that are neither letters nor numerals,
before a capital after a small letter or a digit, and before the last capital of a
run of them.  The case conversions write the words of a text in a common style.

The same words come from one pass over the characters and their places, in which a capital is
compared with what is read from the text at the places beside it.  Reading before the first place
is refused: then there are no words.
-/

namespace TemplateLang.Words

/-- Whether a word ends between two neighbours of a text: `c` is a capital, and
`before` is a small letter, a digit, or a capital with a small letter after `c`. -/
def isBoundary (before c : Char) (after : Option Char) : Bool :=
  Unicode.isUppercase c &&
    (Unicode.isLowercase before || before.isDigit ||
      (Unicode.isUppercase before && (after.map Unicode.isLowercase).getD false))

/-- The words of a text, of which `word` is the part of the current one that was
read, last character first. -/
def splitFrom : List Char → List Char → List (List Char)
  | [], [] => []
  | word, [] => [word.reverse]
  | [], c :: rest =>
    if Unicode.isAlphanumeric c then splitFrom [c] rest else splitFrom [] rest
  | before :: word, c :: rest =>
    if !Unicode.isAlphanumeric c then (before :: word).reverse :: splitFrom [] rest
    else if isBoundary before c rest.head? then
      (before :: word).reverse :: splitFrom [c] rest
    else splitFrom (c :: before :: word) rest

/-- The words of a text. -/
def split (text : List Char) : List (List Char) :=
  splitFrom [] text

/-- A word with a capital first character and small others, each on its own. -/
def capitalize : List Char → List Char
  | [] => []
  | first :: rest => Unicode.toUpper first ++ rest.flatMap Unicode.toLower

/-- Words with a separator between. -/
def joinWith (separator : List Char) (convert : List Char → List Char) (text : List Char) :
    List Char :=
  separator.intercalate ((split text).map convert)

def camel (text : List Char) : List Char :=
  match split text with
  | [] => []
  | first :: rest => Unicode.lowerText first ++ rest.flatMap capitalize

def pascal (text : List Char) : List Char :=
  (split text).flatMap capitalize

def snake (text : List Char) : List Char :=
  joinWith ['_'] Unicode.lowerText text

def kebab (text : List Char) : List Char :=
  joinWith ['-'] Unicode.lowerText text

def constant (text : List Char) : List Char :=
  joinWith ['_'] Unicode.upperText text

/-! ## Words by places -/

/-- The words that are complete, and the one that was begun, last character first. -/
structure Progress where
  complete : List (List Char)
  word : List Char
deriving DecidableEq, Repr

namespace Progress

/-- The word that was begun is complete, if there is one. -/
def close (progress : Progress) : Progress :=
  if progress.word.isEmpty then progress
  else ⟨progress.complete ++ [progress.word.reverse], []⟩

/-- The word goes on with a character. -/
def push (progress : Progress) (c : Char) : Progress :=
  ⟨progress.complete, c :: progress.word⟩

end Progress

/-- The character before a place of a text. -/
def charBefore? (text : List Char) : Nat → Option Char
  | 0 => none
  | place + 1 => text[place]?

/-- Pass the character at a place of a text. -/
def pass? (text : List Char) (progress : Progress) : Char × Nat → Option Progress
  | (c, place) =>
    if !Unicode.isAlphanumeric c then some progress.close
    else if Unicode.isUppercase c && !progress.word.isEmpty then do
      let before ← charBefore? text place
      if isBoundary before c text[place + 1]? then some (progress.close.push c)
      else some (progress.push c)
    else some (progress.push c)

/-- The words of a text. -/
def splitByPlaces? (text : List Char) : Option (List (List Char)) := do
  let progress ← text.zipIdx.foldlM (pass? text) ⟨[], []⟩
  some progress.close.complete

end TemplateLang.Words
