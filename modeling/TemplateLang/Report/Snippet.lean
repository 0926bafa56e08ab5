import TemplateLang.Source.Lines
import TemplateLang.Report.Diagnostic

/-!
# Reports with a piece of the source

A report shows the lines around the primary label of a diagnostic, two before
and two after, each behind a gutter with its number.  Under a labelled line
carets stand below the characters that the label covers; tabs before them are
kept so that the columns line up.
-/

namespace TemplateLang

namespace Snippet

/-- The number of lines shown before and after the labelled ones. -/
def context : Nat :=
  2

/-- A text without the blanks and tabs that end it. -/
def dropTrailingBlanks (text : List Char) : List Char :=
  (text.reverse.dropWhile fun c => c = ' ' || c = '\t').reverse

/-- A line of the report: gutter, bar and text, without trailing blanks. -/
def row (gutter : String) (text : List Char) : String :=
  "\n" ++ String.ofList (dropTrailingBlanks (("  " ++ gutter ++ " | ").toList ++ text))

/-- A text right-aligned in `width` columns. -/
def alignRight (width : Nat) (text : String) : String :=
  "".pushn ' ' (width - text.length) ++ text

/-- The part of a line that a label covers. -/
structure Mark where
  start : Nat
  stop : Nat
deriving DecidableEq, Repr

/-- The place of a label in its source: offsets no further than the end of the
source, and the first and last line that it touches. -/
structure Extent where
  start : Nat
  stop : Nat
  first : Nat
  last : Nat
deriving DecidableEq, Repr

/-- The extent of a span.  An empty span touches the line it stands on, another
one every line that holds one of its bytes. -/
def extent (index : LineIndex) (span : Span) : Extent :=
  let start := min span.start index.size
  let stop := max (min span.stop index.size) start
  let first := index.lineOf start
  let last := if start < stop then index.lineOf (stop - 1) else first
  ⟨start, stop, first, last⟩

/-- `offset` moved into the range from `low` to `high`. -/
def clamp (low high offset : Nat) : Nat :=
  max low (min high offset)

/-- The part of a labelled line that the extent covers: from its start on the
first line, up to its end on the last line, whole in between. -/
def mark (index : LineIndex) (extent : Extent) (line : Nat) : Mark :=
  let span := (index.line line).span
  let start := if line = extent.first then clamp span.start span.stop extent.start
    else span.start
  let stop := if line = extent.last then clamp start span.stop extent.stop
    else span.stop
  ⟨start, stop⟩

/-- The blanks that put the carets in place: one for each character before the
marked part, tabs kept. -/
def padding (index : LineIndex) (line : Nat) (mark : Mark) : List Char :=
  ((index.line line).textTo mark.start).map fun c => if c = '\t' then '\t' else ' '

/-- The number of carets under a labelled line.  A label within one line always
has one. -/
def caretCount (index : LineIndex) (extent : Extent) (mark : Mark) : Nat :=
  let covered := ((Span.between mark.start mark.stop).textOf index.source).length
  if extent.first = extent.last then max covered 1 else covered

/-- The carets under a labelled line, and the message after the last of them. -/
def markerRow (index : LineIndex) (extent : Extent) (label : Label) (width line : Nat) :
    String :=
  let mark := mark index extent line
  let carets := caretCount index extent mark
  if carets = 0 then ""
  else
    let message := if line = extent.last && !label.message.isEmpty then
      ' ' :: label.message.toList else []
    row ("".pushn ' ' width)
      (padding index line mark ++ List.replicate carets '^' ++ message)

/-- A line of the source with its number, and its carets if it is labelled. -/
def lineRows (index : LineIndex) (extent : Extent) (label : Label) (width line : Nat) :
    String :=
  let shown := row (alignRight width (toString (line + 1))) (index.line line).content
  if extent.first ≤ line ∧ line ≤ extent.last then
    shown ++ markerRow index extent label width line
  else shown

/-- The lines around a label. -/
def body (source : List Char) (label : Label) : String :=
  let index := LineIndex.ofSource source
  let extent := extent index label.span
  let start := extent.first - context
  let stop := min (extent.last + context) (index.lineCount - 1)
  let width := (toString (stop + 1)).length
  let lines := List.range' start (stop + 1 - start)
  String.join (lines.map (lineRows index extent label width))

end Snippet

/-- The report of a diagnostic on its source: the headline, the labelled lines
and the help. -/
def Diagnostic.report (diagnostic : Diagnostic) (source : List Char) : String :=
  let snippet := match diagnostic.primaryLabel? with
    | some label => Snippet.body source label
    | none => ""
  let help := match diagnostic.help with
    | some help => "\n  = help: " ++ help
    | none => ""
  diagnostic.headline ++ snippet ++ help

/-- The reports of several diagnostics, a blank line between two. -/
def reportAll (diagnostics : List Diagnostic) (source : List Char) : String :=
  "\n\n".intercalate (diagnostics.map (·.report source))

end TemplateLang
