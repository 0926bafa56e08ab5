import TemplateLang.Number.Natural
import TemplateLang.Pattern.Match

/-!
# Replacing matches

A replacement is text in which a dollar sign and the number or the name of a group
stand for what the group matched.  The name may be in braces; without them it takes
all word characters that follow.  Two dollar signs stand for one.
-/

namespace TemplateLang.Pattern

/-- A piece of a replacement. -/
inductive Piece where
  | literal (c : Char)
  | number (index : Nat)
  | name (name : String)
deriving DecidableEq, Repr

namespace Piece

/-- Characters of names without braces. -/
def isNameChar (c : Char) : Bool :=
  c.isAlphanum || c = '_'

/-- The group that a reference stands for. -/
def ofReference (text : List Char) : Piece :=
  match naturalBelow? sizeBound text with
  | some index => number index
  | none => name (String.ofList text)

/-- The reference after a dollar sign, and the text after it. -/
def reference? (text : List Char) : Option (Piece × List Char) :=
  match text with
  | '\x7b' :: inner =>
    match inner.dropWhile (· ≠ '\x7d') with
    | _ :: rest => some (ofReference (inner.takeWhile (· ≠ '\x7d')), rest)
    | [] => none
  | text =>
    let word := text.takeWhile isNameChar
    if word.isEmpty then none else some (ofReference word, text.dropWhile isNameChar)

/-- The pieces of a replacement, of which at most `fuel` are read. -/
def readFrom : Nat → List Char → List Piece
  | 0, _ | _, [] => []
  | fuel + 1, '$' :: '$' :: rest => literal '$' :: readFrom fuel rest
  | fuel + 1, '$' :: rest =>
    match reference? rest with
    | some (piece, rest) => piece :: readFrom fuel rest
    | none => literal '$' :: readFrom fuel rest
  | fuel + 1, c :: rest => literal c :: readFrom fuel rest

/-- The pieces of a replacement. -/
def read (text : List Char) : List Piece :=
  readFrom text.length text

end Piece

namespace Program

/-- The part of a text between two positions. -/
def slice (text : List Char) (range : Nat × Nat) : List Char :=
  (text.drop range.1).take (range.2 - range.1)

/-- What a group matched; a group that took no part matched nothing. -/
def groupText (text : List Char) (slots : Slots) (index : Nat) : List Char :=
  match groupOf slots index with
  | some range => slice text range
  | none => []

/-- What a piece stands for in a match. -/
def expand (program : Program) (text : List Char) (slots : Slots) : Piece → List Char
  | .literal c => [c]
  | .number index => groupText text slots index
  | .name name =>
    match program.groupNames.lookup name with
    | some index => groupText text slots index
    | none => []

/-- A text from a position on, with matches replaced. -/
def replaceFrom (program : Program) (pieces : List Piece) (text : List Char) :
    Nat → List Slots → List Char
  | position, [] => text.drop position
  | position, slots :: rest =>
    match groupOf slots 0 with
    | some (start, stop) =>
      slice text (position, start) ++ pieces.flatMap (expand program text slots) ++
        replaceFrom program pieces text stop rest
    | none => replaceFrom program pieces text position rest

/-- A text with every match replaced. -/
def replaceAll (program : Program) (replacement text : List Char) : List Char :=
  replaceFrom program (Piece.read replacement) text 0 (allMatches program text)

end Program

end TemplateLang.Pattern
