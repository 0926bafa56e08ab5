import TemplateLang.Source.Span

/-!
# Lines and columns

A `LineIndex` holds a source text and its lines, each with the offset at which it
starts.  A line ends before its newline and before one carriage return in front of
that.  Looking up the line of an offset is a search by halving; positions count lines
and columns from one, and columns count characters.
-/

namespace TemplateLang

/-- A one-based line and a one-based column, in characters. -/
structure Position where
  line : Nat
  column : Nat
deriving DecidableEq, Repr

/-- A position in words. -/
def Position.describe (position : Position) : String :=
  s!"{position.line}:{position.column}"

/-- The parts of a text between its newlines. -/
def splitLines : List Char → List (List Char)
  | [] => [[]]
  | c :: rest =>
    if c = '\n' then [] :: splitLines rest
    else
      match splitLines rest with
      | line :: others => (c :: line) :: others
      | [] => [[c]]

@[simp]
theorem splitLines_nil : splitLines [] = [[]] :=
  rfl

/-- A newline at the start ends an empty line. -/
@[simp]
theorem splitLines_newline (rest : List Char) :
    splitLines ('\n' :: rest) = [] :: splitLines rest :=
  rfl

/-- Any other character stands in front of the first line of the rest. -/
theorem splitLines_cons {c : Char} {rest line : List Char} {others : List (List Char)}
    (ordinary : c ≠ '\n') (parts : splitLines rest = line :: others) :
    splitLines (c :: rest) = (c :: line) :: others := by
  rw [splitLines, if_neg ordinary, parts]

/-- Every text has a line. -/
theorem splitLines_ne_nil (text : List Char) : splitLines text ≠ [] := by
  induction text with
  | nil => simp
  | cons c rest ih =>
    by_cases newline : c = '\n'
    · subst newline
      simp
    · obtain ⟨line, others, parts⟩ := List.exists_cons_of_ne_nil ih
      rw [splitLines_cons newline parts]
      exact List.cons_ne_nil _ _

/-- The lines with newlines between are the text. -/
theorem intercalate_splitLines (text : List Char) :
    ['\n'].intercalate (splitLines text) = text := by
  induction text with
  | nil => rfl
  | cons c rest ih =>
    obtain ⟨line, others, parts⟩ := List.exists_cons_of_ne_nil (splitLines_ne_nil rest)
    rw [parts] at ih
    by_cases newline : c = '\n'
    · subst newline
      rw [splitLines_newline, parts, ← ih]
      rfl
    · rw [splitLines_cons newline parts, ← ih]
      cases others <;> rfl

/-- No line holds a newline. -/
theorem newline_not_mem_of_mem_splitLines {text line : List Char}
    (inside : line ∈ splitLines text) : '\n' ∉ line := by
  induction text generalizing line with
  | nil => simp_all
  | cons c rest ih =>
    by_cases newline : c = '\n'
    · subst newline
      rw [splitLines_newline] at inside
      rcases List.mem_cons.1 inside with rfl | later
      · simp
      · exact ih later
    · obtain ⟨first, others, parts⟩ := List.exists_cons_of_ne_nil (splitLines_ne_nil rest)
      rw [parts] at ih
      rw [splitLines_cons newline parts] at inside
      rcases List.mem_cons.1 inside with rfl | later
      · simpa [Ne.symm newline] using ih List.mem_cons_self
      · exact ih (List.mem_cons_of_mem _ later)

/-- A line of a source: the offset of its start, and its text without the newline. -/
structure Line where
  start : Nat
  text : List Char
deriving DecidableEq, Repr

namespace Line

/-- The offset at which a line ends, its newline left out. -/
def stop (line : Line) : Nat :=
  line.start + byteLength line.text

/-- The text of a line up to an offset. -/
def textTo (line : Line) (offset : Nat) : List Char :=
  takeBytes (offset - line.start) line.text

/-- The span of a line without a carriage return that ends it. -/
def span (line : Line) : Span :=
  Span.between line.start
    (if line.text.getLast? = some '\r' then line.stop - 1 else line.stop)

/-- The text of a line without a carriage return that ends it. -/
def content (line : Line) : List Char :=
  line.textTo line.span.stop

end Line

/-- Lines that follow each other, each after the newline of the one before. -/
def placeLines : Nat → List (List Char) → List Line
  | _, [] => []
  | start, text :: rest => ⟨start, text⟩ :: placeLines (start + byteLength text + 1) rest

/-- A source text with its size in bytes and its lines. -/
structure LineIndex where
  source : List Char
  size : Nat
  lines : Array Line

namespace LineIndex

/-- The index of a source text: its first line starts at zero, every other one
after a newline. -/
def ofSource (source : List Char) : LineIndex :=
  ⟨source, byteLength source, (placeLines 0 (splitLines source)).toArray⟩

/-- The number of lines; an empty text has one empty line. -/
def lineCount (index : LineIndex) : Nat :=
  index.lines.size

/-- The line of a number, counted from zero.  Beyond the last there are empty ones. -/
def line (index : LineIndex) (number : Nat) : Line :=
  index.lines.getD number ⟨0, []⟩

/-- Between `low` and `high`, the number of the last line that starts at or
before `offset`, given that line `low` does and line `high` does not. -/
def search (index : LineIndex) (offset low high : Nat) : Nat :=
  if low + 1 < high then
    let middle := (low + high) / 2
    if (index.line middle).start ≤ offset then search index offset middle high
    else search index offset low middle
  else low
termination_by high - low

/-- The zero-based number of the line that holds an offset; an offset past the
end is on the last line. -/
def lineOf (index : LineIndex) (offset : Nat) : Nat :=
  index.search (min offset index.size) 0 index.lineCount

/-- The line and column of an offset; an offset past the end stands at it. -/
def position (index : LineIndex) (offset : Nat) : Position :=
  let offset := min offset index.size
  let number := index.lineOf offset
  ⟨number + 1, ((index.line number).textTo offset).length + 1⟩

end LineIndex

end TemplateLang
