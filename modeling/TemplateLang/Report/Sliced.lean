import TemplateLang.Report.Snippet

/-!
# Reports by slicing

The same reports with every piece of the source cut out by its two offsets, as a program
does that holds the source as bytes.  A cut is refused that is out of range, in the wrong
order or inside of a character, and so is the number of a line that is not there: then
there is no report.

Such a program keeps nothing of the lines but the offsets at which they start, collected in one
pass.  An offset is looked for among them by halving, which finds it or tells the place at which
it would have to be inserted.  A place before the first line is refused.
-/

namespace TemplateLang

/-! ## Cuts -/

/-- Whether a source can be cut at an offset: a character begins there, or the source ends. -/
def isBoundary (source : List Char) (offset : Nat) : Bool :=
  byteLength (takeBytes offset source) = offset

/-- The text between two offsets. -/
def slice? (source : List Char) (start stop : Nat) : Option (List Char) :=
  if start ≤ stop ∧ isBoundary source start ∧ isBoundary source stop then
    some (takeBytes (stop - start) (dropBytes start source))
  else none

/-! ## Reports -/

namespace Snippet

/-- The offset at which a line ends: before its newline, or with the source. -/
def lineStop (index : LineIndex) (number : Nat) : Nat :=
  match index.lines[number + 1]? with
  | some next => next.start - 1
  | none => index.size

/-- The offsets between which a line stands, without what ends it. -/
def lineRange? (index : LineIndex) (number : Nat) : Option (Nat × Nat) := do
  let line ← index.lines[number]?
  let stop := lineStop index number
  if line.start < stop then do
    let text ← slice? index.source line.start stop
    some (line.start, if text.getLast? = some '\r' then stop - 1 else stop)
  else some (line.start, stop)

/-- On the line where a label ends, its offset moved into the range of the line, which must
be one; on another line, that end of the line. -/
def endOn? (isEnd : Bool) (low high offset lineEnd : Nat) : Option Nat :=
  if isEnd then if low ≤ high then some (clamp low high offset) else none else some lineEnd

/-- The part of a labelled line that the extent covers. -/
def mark? (index : LineIndex) (extent : Extent) (line : Nat) : Option Mark := do
  let (low, high) ← lineRange? index line
  let start ← endOn? (line = extent.first) low high extent.start low
  let stop ← endOn? (line = extent.last) start high extent.stop high
  some ⟨start, stop⟩

/-- The carets under a labelled line, and the message after the last of them. -/
def markerRow? (index : LineIndex) (extent : Extent) (label : Label) (width line : Nat) :
    Option String := do
  let (low, _) ← lineRange? index line
  let mark ← mark? index extent line
  let before ← slice? index.source low mark.start
  let covered ← slice? index.source mark.start mark.stop
  let carets := if extent.first = extent.last then max covered.length 1 else covered.length
  if carets = 0 then some ""
  else
    let message := if line = extent.last && !label.message.isEmpty then
      ' ' :: label.message.toList else []
    some (row ("".pushn ' ' width)
      (before.map (fun c => if c = '\t' then '\t' else ' ') ++ List.replicate carets '^' ++
        message))

/-- A line of the source with its number, and its carets if it is labelled. -/
def lineRows? (index : LineIndex) (extent : Extent) (label : Label) (width line : Nat) :
    Option String := do
  let (low, high) ← lineRange? index line
  let content ← slice? index.source low high
  let shown := row (alignRight width (toString (line + 1))) content
  if extent.first ≤ line ∧ line ≤ extent.last then do
    let marker ← markerRow? index extent label width line
    some (shown ++ marker)
  else some shown

/-- The lines around a label. -/
def body? (source : List Char) (label : Label) : Option String := do
  let index := LineIndex.ofSource source
  let extent := extent index label.span
  let start := extent.first - context
  let stop := min (extent.last + context) (index.lineCount - 1)
  let width := (toString (stop + 1)).length
  let rows ← (List.range' start (stop + 1 - start)).mapM (lineRows? index extent label width)
  some (String.join rows)

end Snippet

/-- The report of a diagnostic on its source, if all of its pieces can be cut out. -/
def Diagnostic.report? (diagnostic : Diagnostic) (source : List Char) : Option String := do
  let snippet ← match diagnostic.primaryLabel? with
    | some label => Snippet.body? source label
    | none => some ""
  let help := match diagnostic.help with
    | some help => "\n  = help: " ++ help
    | none => ""
  some (diagnostic.headline ++ snippet ++ help)

/-! ## Searching by halving -/

/-- What a search finds in numbers that increase: the place of the value, or the place at which
it would have to be inserted. -/
inductive Search where
  | found (place : Nat)
  | missing (place : Nat)
deriving DecidableEq, Repr

/-- Halve the part of some numbers that begins at `base`, until one place of it is left: the last
one whose number is not above the value. -/
def narrow (numbers : Array Nat) (value base size : Nat) : Nat :=
  if 1 < size then
    let half := size / 2
    let middle := base + half
    if numbers.getD middle 0 ≤ value then narrow numbers value middle (size - half)
    else narrow numbers value base (size - half)
  else base
termination_by size

/-- Look for a value in numbers that increase. -/
def binarySearch (numbers : Array Nat) (value : Nat) : Search :=
  if numbers.isEmpty then .missing 0
  else
    let place := narrow numbers value 0 numbers.size
    match compare (numbers.getD place 0) value with
    | .eq => .found place
    | .lt => .missing (place + 1)
    | .gt => .missing place

/-! ## Lines by their starts -/

/-- The offsets behind the newlines of a text that begins at an offset. -/
def startsAfter (offset : Nat) : List Char → List Nat
  | [] => []
  | c :: rest =>
    if c = '\n' then (offset + 1) :: startsAfter (offset + 1) rest
    else startsAfter (offset + c.utf8Size) rest

/-- The offsets at which the lines of a source start. -/
def lineStarts (source : List Char) : Array Nat :=
  (0 :: startsAfter 0 source).toArray

/-- The zero-based number of the line that holds an offset. -/
def lineOf? (source : List Char) (offset : Nat) : Option Nat :=
  match binarySearch (lineStarts source) (min offset (byteLength source)) with
  | .found line => some line
  | .missing 0 => none
  | .missing (next + 1) => some next

/-- The line and column of an offset. -/
def position? (source : List Char) (offset : Nat) : Option Position := do
  let offset := min offset (byteLength source)
  let number ← lineOf? source offset
  let start ← (lineStarts source)[number]?
  let text ← slice? source start offset
  some ⟨number + 1, text.length + 1⟩

/-- The offset at which the line after one starts, or the source ends. -/
def nextStart (source : List Char) (number : Nat) : Nat :=
  (lineStarts source).getD (number + 1) (byteLength source)

end TemplateLang
