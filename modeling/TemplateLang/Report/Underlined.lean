import TemplateLang.Report.Snippet

/-!
# Underlined lines

What a report shows of a source, told character by character.  A character is underlined if it
begins inside of the labelled span, and the lines are counted by the newlines before them.
-/

namespace TemplateLang.Snippet

/-! ## Lines -/

/-- The first line that a span touches: so many newlines are before it. -/
def firstLine (source : List Char) (span : Span) : Nat :=
  (takeBytes span.start source).count '\n'

/-- The last line that a span touches.  A newline is part of the line that it ends. -/
def lastLine (source : List Char) (span : Span) : Nat :=
  firstLine source span + (span.textOf source).dropLast.count '\n'

/-- The lines that are shown: those of the source that are no further from a labelled line than
the context goes. -/
def shownLines (source : List Char) (span : Span) : List Nat :=
  (List.range (splitLines source).length).filter fun number =>
    firstLine source span ≤ number + context ∧ number ≤ lastLine source span + context

/-- The columns that the longest number of a shown line takes. -/
def gutterWidth (source : List Char) (span : Span) : Nat :=
  ((shownLines source span).map fun number => (toString (number + 1)).length).foldr max 0

/-- The text of a line, without a carriage return that ends it. -/
def textOfLine (line : Line) : List Char :=
  if line.text.getLast? = some '\r' then line.text.dropLast else line.text

/-! ## Marks -/

/-- What stands under a character that is not underlined. -/
def blank (c : Char) : Char :=
  if c = '\t' then '\t' else ' '

/-- What stands under the characters of a text that begins at an offset, one for each. -/
def underline (span : Span) : Nat → List Char → List Char
  | _, [] => []
  | offset, c :: rest =>
    (if span.start ≤ offset ∧ offset < span.stop then '^' else blank c) ::
      underline span (offset + c.utf8Size) rest

/-- A text up to its last caret. -/
def upToCaret (text : List Char) : List Char :=
  (text.reverse.dropWhile (· ≠ '^')).reverse

/-- One caret at the start of a span, or at the end of the line if that is before it. -/
def loneCaret (span : Span) (line : Line) : List Char :=
  (takeBytes (span.start - line.start) (textOfLine line)).map blank ++ ['^']

/-- What stands under a labelled line.  A span within one line always has a caret. -/
def marks (source : List Char) (span : Span) (line : Line) : List Char :=
  let marked := upToCaret (underline span line.start (textOfLine line))
  if marked = [] ∧ firstLine source span = lastLine source span then loneCaret span line
  else marked

/-! ## Rows -/

/-- The rows of a line: its number and its text, and under a labelled line what underlines it.
The message stands behind the carets of the last labelled line. -/
def underlinedRows (source : List Char) (label : Label) (number : Nat) : String :=
  let line := (LineIndex.ofSource source).line number
  let width := gutterWidth source label.span
  let first := firstLine source label.span
  let last := lastLine source label.span
  let marked := if first ≤ number ∧ number ≤ last then marks source label.span line else []
  let message := if number = last ∧ label.message ≠ "" then ' ' :: label.message.toList else []
  row (alignRight width (toString (number + 1))) (textOfLine line) ++
    if marked = [] then "" else row ("".pushn ' ' width) (marked ++ message)

/-- The shown lines of a source, each with what underlines it. -/
def underlined (source : List Char) (label : Label) : String :=
  String.join ((shownLines source label.span).map (underlinedRows source label))

end TemplateLang.Snippet
