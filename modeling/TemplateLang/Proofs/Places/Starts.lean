import TemplateLang.Proofs.Coverage.Positions
import TemplateLang.Proofs.Places.Report
import TemplateLang.Proofs.Places.Underlining
import TemplateLang.Report.Sliced

/-!
# Lines and columns are counted

The line of an offset is the number of newlines before it, and its column counts the characters
behind the last of them.  So both grow along the source.  A line begins behind a newline and ends
before one, but for the first and the last; with what is stripped from them the lines make up the
source.

The starts of the lines increase, and those at or before an offset are as many as the lines up to
it.  So a search by halving among them finds the line of the offset, and from its start the source
can be cut up to the offset.
-/

namespace TemplateLang

variable {source : List Char} {offset number : Nat}

/-! ## Counting along a text -/

namespace Position

/-- The order of positions along a source. -/
instance : LE Position where
  le first second :=
    first.line < second.line ∨ first.line = second.line ∧ first.column ≤ second.column

theorem le_refl (position : Position) : position ≤ position :=
  .inr ⟨rfl, Nat.le_refl _⟩

theorem le_trans {first second third : Position} (before : first ≤ second)
    (after : second ≤ third) : first ≤ third := by
  change _ ∨ _
  rcases before with line | ⟨line, column⟩ <;> rcases after with line' | ⟨line', column'⟩ <;> omega

/-- A character leads to a later position. -/
theorem le_advance (position : Position) (c : Char) : position ≤ position.advance c := by
  unfold advance
  split
  · exact .inl (Nat.lt_succ_self _)
  · exact .inr ⟨rfl, Nat.le_succ _⟩

theorem le_foldl_advance (position : Position) (text : List Char) :
    position ≤ text.foldl advance position := by
  induction text generalizing position with
  | nil => exact position.le_refl
  | cons c rest ih => exact le_trans (position.le_advance c) (ih _)

/-- The line after a text is counted by its newlines, and the column by the characters behind the
last of them. -/
theorem after_eq (text : List Char) :
    after text = ⟨text.count '\n' + 1, (text.reverse.takeWhile (· ≠ '\n')).length + 1⟩ := by
  induction text using List.reverseRecOn with
  | nil => rfl
  | append_singleton front c ih =>
    rw [after, List.foldl_append, ← after, ih, List.reverse_concat, List.count_append]
    by_cases newline : c = '\n'
    · subst newline
      rw [List.takeWhile_cons_of_neg (by simp)]
      rfl
    · rw [List.takeWhile_cons_of_pos (by simpa using newline), List.count_cons_of_ne newline]
      exact if_neg newline

end Position

/-! ## Starts of lines -/

/-- The starts that one pass collects are those of the lines. -/
theorem startsAfter_eq (offset : Nat) (text : List Char) :
    offset :: startsAfter offset text = (placeLines offset (splitLines text)).map Line.start := by
  induction text generalizing offset with
  | nil => rfl
  | cons c rest ih =>
    rw [startsAfter]
    by_cases newline : c = '\n'
    · rw [if_pos newline, newline, splitLines_newline, placeLines, List.map_cons, ← ih]
      rfl
    · -- The character goes to the first line of the rest, and moves the others.
      rcases List.exists_cons_of_ne_nil (splitLines_ne_nil rest) with ⟨first, others, parts⟩
      have later := ih (offset + c.utf8Size)
      rw [parts, placeLines, List.map_cons] at later
      rw [if_neg newline, splitLines_cons newline parts, (List.cons.inj later).2]
      simp [placeLines, Nat.add_assoc]

theorem lineStarts_eq (source : List Char) :
    (lineStarts source).toList = (LineIndex.ofSource source).lines.toList.map Line.start :=
  startsAfter_eq 0 source

theorem size_lineStarts (source : List Char) :
    (lineStarts source).size = (LineIndex.ofSource source).lineCount := by
  have lengths := congrArg List.length (lineStarts_eq source)
  rwa [List.length_map] at lengths

theorem getElem?_lineStarts (isThere : number < (LineIndex.ofSource source).lineCount) :
    (lineStarts source)[number]? = some ((LineIndex.ofSource source).line number).start := by
  rw [← Array.getElem?_toList, lineStarts_eq, List.getElem?_map, Array.getElem?_toList,
    (isLine_of_lt isThere).found, Option.map_some]

/-! ## The search -/

/-- Halving finds the last of the places whose numbers are not above a value. -/
theorem narrow_eq {numbers : Array Nat} {value place base size : Nat} (lows : base ≤ place)
    (highs : place < base + size)
    (splits : ∀ other, other < base + size → (numbers.getD other 0 ≤ value ↔ other ≤ place)) :
    narrow numbers value base size = place := by
  fun_induction narrow numbers value base size with
  | case1 base size wide half middle isLow ih =>
    have after := (splits middle (by omega)).mp isLow
    exact ih after (by omega) fun other isBelow => splits other (by omega)
  | case2 base size wide half middle isHigh ih =>
    rw [splits middle (by omega)] at isHigh
    exact ih lows (by omega) fun other isBelow => splits other (by omega)
  | case3 base size narrow => omega

theorem binarySearch_eq {numbers : Array Nat} {value place : Nat} (isThere : place < numbers.size)
    (splits : ∀ other, other < numbers.size → (numbers.getD other 0 ≤ value ↔ other ≤ place)) :
    binarySearch numbers value =
      if numbers.getD place 0 = value then .found place else .missing (place + 1) := by
  have some' : numbers.isEmpty = false := by
    rw [Array.isEmpty_eq_false_iff, ← Array.size_pos_iff]
    omega
  have within : ∀ other, other < 0 + numbers.size →
      (numbers.getD other 0 ≤ value ↔ other ≤ place) :=
    fun other isBelow => splits other (by omega)
  have found : narrow numbers value 0 numbers.size = place :=
    narrow_eq (Nat.zero_le _) (by omega) within
  have isLow : numbers.getD place 0 ≤ value := (splits place isThere).mpr (Nat.le_refl _)
  unfold binarySearch
  rw [some', found, if_neg Bool.false_ne_true]
  dsimp only
  rcases Nat.lt_or_eq_of_le isLow with below | same
  · rw [Nat.compare_eq_lt.mpr below, if_neg (Nat.ne_of_lt below)]
  · rw [Nat.compare_eq_eq.mpr same, if_pos same]

theorem lineOf_lt (source : List Char) (offset : Nat) :
    (LineIndex.ofSource source).lineOf offset < (LineIndex.ofSource source).lineCount := by
  rw [LineIndex.lineOf_eq, LineIndex.lineCount_eq, ← length_splitLines]
  exact firstLine_lt source (Span.point offset)

/-- The line is found by its start, or by the start behind which the offset would have to be. -/
theorem lineOf?_eq (source : List Char) (offset : Nat) :
    lineOf? source offset = some ((LineIndex.ofSource source).lineOf offset) := by
  have isThere : (LineIndex.ofSource source).lineOf offset < (lineStarts source).size := by
    rw [size_lineStarts]
    exact lineOf_lt source offset
  have splits : ∀ other, other < (lineStarts source).size →
      ((lineStarts source).getD other 0 ≤ min offset (byteLength source) ↔
        other ≤ (LineIndex.ofSource source).lineOf offset) := by
    intro other isOther
    rw [size_lineStarts] at isOther
    rw [Array.getD_eq_getD_getElem?, getElem?_lineStarts isOther, Option.getD_some,
      LineIndex.start_line_le_iff isOther, takeBytes_min, LineIndex.lineOf_eq]
  rw [lineOf?, binarySearch_eq isThere splits]
  by_cases atStart : (lineStarts source).getD ((LineIndex.ofSource source).lineOf offset) 0 =
      min offset (byteLength source)
  · rw [if_pos atStart]
  · rw [if_neg atStart]

/-! ## Positions -/

/-- The line of an offset starts at or before it. -/
theorem start_lineOf_le (source : List Char) (offset : Nat) :
    ((LineIndex.ofSource source).line ((LineIndex.ofSource source).lineOf offset)).start ≤
      offset := by
  rw [LineIndex.start_line_le_iff (lineOf_lt source offset), LineIndex.lineOf_eq]

/-- An offset of the source is not beyond the end of its line. -/
theorem le_stop_lineOf (inside : offset ≤ byteLength source) :
    offset ≤
      ((LineIndex.ofSource source).line ((LineIndex.ofSource source).lineOf offset)).stop := by
  rw [← (isLine_of_lt (lineOf_lt source offset)).next, Snippet.lineStop]
  by_cases isNext : (LineIndex.ofSource source).lineOf offset + 1 <
      (LineIndex.ofSource source).lineCount
  · have after := LineIndex.start_line_le_iff isNext offset
    rw [← LineIndex.lineOf_eq] at after
    rw [(isLine_of_lt isNext).found]
    dsimp only
    omega
  · rw [Array.getElem?_eq_none (Nat.not_lt.mp isNext)]
    exact inside

/-- The position is found by cuts of the source. -/
theorem position?_eq (ends : Boundary source offset ∨ byteLength source ≤ offset) :
    position? source offset = some ((LineIndex.ofSource source).position offset) := by
  have boundary := boundary_min ends
  have isThere := lineOf_lt source (min offset (byteLength source))
  have isLine := isLine_of_lt isThere
  have starts := start_lineOf_le source (min offset (byteLength source))
  have stops := le_stop_lineOf (Nat.min_le_right offset (byteLength source))
  have cut : slice? source ((LineIndex.ofSource source).line _).start _ = some _ :=
    (slice?_eq_some isLine.boundary_start boundary starts).trans
      (congrArg some (isLine.textOf_eq_textTo starts stops))
  unfold position?
  dsimp only
  rw [lineOf?_eq, Option.bind_eq_bind, Option.bind_some, getElem?_lineStarts isThere,
    Option.bind_eq_bind, Option.bind_some, cut]
  rfl

/-- The position of an offset is counted along the text before it. -/
theorem position_eq_after (ends : Boundary source offset ∨ byteLength source ≤ offset) :
    (LineIndex.ofSource source).position offset = Position.after (takeBytes offset source) := by
  have size : (LineIndex.ofSource source).size = byteLength source := rfl
  have clamped : (LineIndex.ofSource source).position offset =
      (LineIndex.ofSource source).position (min offset (byteLength source)) := by
    rw [LineIndex.position, LineIndex.position, size, Nat.min_assoc, Nat.min_self]
  rcases boundary_min ends with ⟨before, after, isSplit, place⟩
  have taken : takeBytes offset source = before := by
    rw [← takeBytes_min, place, isSplit, takeBytes_append]
  rw [clamped, place, LineIndex.position_eq isSplit, taken]

/-- A later cut takes what an earlier one takes, and more. -/
theorem takeBytes_isPrefix {first second : Nat} (ordered : first ≤ second) (text : List Char) :
    takeBytes first text <+: takeBytes second text := by
  induction text generalizing first second with
  | nil => exact List.prefix_rfl
  | cons c rest ih =>
    rw [takeBytes, takeBytes]
    by_cases none : first = 0
    · rw [if_pos none]
      exact List.nil_prefix
    · rw [if_neg none, if_neg (by omega), List.cons_prefix_cons]
      exact ⟨rfl, ih (by omega)⟩

theorem lineOf_mono {first second : Nat} (ordered : first ≤ second) :
    (LineIndex.ofSource source).lineOf first ≤ (LineIndex.ofSource source).lineOf second := by
  rw [LineIndex.lineOf_eq, LineIndex.lineOf_eq]
  exact (takeBytes_isPrefix ordered source).sublist.count_le '\n'

theorem position_mono {first second : Nat}
    (isFirst : Boundary source first ∨ byteLength source ≤ first)
    (isSecond : Boundary source second ∨ byteLength source ≤ second) (ordered : first ≤ second) :
    (LineIndex.ofSource source).position first ≤ (LineIndex.ofSource source).position second := by
  rcases takeBytes_isPrefix ordered source with ⟨text, taken⟩
  rw [position_eq_after isFirst, position_eq_after isSecond, ← taken, Position.after,
    Position.after, List.foldl_append]
  exact Position.le_foldl_advance _ text

/-! ## Lines with what ends them -/

/-- What is stripped from a line: a carriage return at the end of its text, and the newline behind
it unless it is the last line. -/
def Line.ending (line : Line) (isLast : Prop) [Decidable isLast] : List Char :=
  (if line.text.getLast? = some '\r' then ['\r'] else []) ++ if isLast then [] else ['\n']

section

variable (line : Line) (isLast : Prop) [Decidable isLast]

theorem Line.content_append_ending :
    line.content ++ line.ending isLast = line.text ++ if isLast then [] else ['\n'] := by
  rw [content_eq, Snippet.textOfLine, ending]
  by_cases isReturn : line.text.getLast? = some '\r'
  · rcases List.getLast?_eq_some_iff.mp isReturn with ⟨front, isSplit⟩
    rw [if_pos isReturn, if_pos isReturn, isSplit, List.dropLast_concat, ← List.append_assoc]
  · rw [if_neg isReturn, if_neg isReturn, List.nil_append]

/-- Behind the range of a line and what is stripped from it the line is over. -/
theorem Line.stop_span_add_ending :
    line.span.stop + byteLength (line.ending isLast) =
      line.stop + byteLength (if isLast then [] else ['\n']) := by
  have lengths := congrArg byteLength (line.content_append_ending isLast)
  rw [byteLength_append, byteLength_append, content_eq] at lengths
  rw [span_stop_eq, Line.stop]
  omega

end

/-- The next line starts behind what is stripped from a line. -/
theorem nextStart_eq (isThere : number < (LineIndex.ofSource source).lineCount) :
    nextStart source number = ((LineIndex.ofSource source).line number).span.stop +
      byteLength (((LineIndex.ofSource source).line number).ending
        (number + 1 = (LineIndex.ofSource source).lineCount)) := by
  rw [Line.stop_span_add_ending, ← (isLine_of_lt isThere).next, nextStart,
    Array.getD_eq_getD_getElem?, Snippet.lineStop]
  by_cases isNext : number + 1 < (LineIndex.ofSource source).lineCount
  · -- A line with another one before it does not start at zero.
    have after := LineIndex.start_line_le_iff isNext 0
    have none : takeBytes 0 source = [] := by cases source <;> rfl
    rw [none, List.count_nil] at after
    rw [getElem?_lineStarts isNext, (isLine_of_lt isNext).found, if_neg (by omega)]
    have one : byteLength ['\n'] = 1 := rfl
    rw [one, Option.getD_some]
    dsimp only
    omega
  · have isLast : number + 1 = (LineIndex.ofSource source).lineCount := by omega
    rw [Array.getElem?_eq_none (by rw [size_lineStarts]; omega), if_pos isLast,
      Array.getElem?_eq_none (Nat.not_lt.mp isNext)]
    rfl

theorem map_text_placeLines (start : Nat) (parts : List (List Char)) :
    (placeLines start parts).map Line.text = parts := by
  induction parts generalizing start with
  | nil => rfl
  | cons first others ih => rw [placeLines, List.map_cons, ih]

theorem text_line (source : List Char) (number : Nat) :
    ((LineIndex.ofSource source).line number).text = (splitLines source).getD number [] := by
  have texts := map_text_placeLines 0 (splitLines source)
  conv_rhs => rw [← texts]
  rw [LineIndex.line, LineIndex.ofSource, Array.getD_eq_getD_getElem?, List.getElem?_toArray,
    List.getD_eq_getElem?_getD, List.getElem?_map]
  cases (placeLines 0 (splitLines source))[number]? <;> rfl

/-- No newline is within the range of a line. -/
theorem newline_not_mem_content (source : List Char) (number : Nat) :
    '\n' ∉ ((LineIndex.ofSource source).line number).content := by
  intro isIn
  rcases ((LineIndex.ofSource source).line number).textOfLine_append with ⟨back, isSplit⟩
  have inText : '\n' ∈ ((LineIndex.ofSource source).line number).text := by
    rw [Line.content_eq] at isIn
    rw [isSplit]
    exact List.mem_append_left back isIn
  rw [text_line, List.getD_eq_getElem?_getD] at inText
  cases found : (splitLines source)[number]? with
  | none => simp [found] at inText
  | some text =>
    rw [found, Option.getD_some] at inText
    exact newline_not_mem_of_mem_splitLines (List.mem_of_getElem? found) inText

/-- Parts with a newline behind each of them but the last. -/
theorem flatMap_newline (parts : List (List Char)) :
    (List.range parts.length).flatMap (fun number =>
        parts.getD number [] ++ if number + 1 = parts.length then [] else ['\n']) =
      ['\n'].intercalate parts := by
  induction parts with
  | nil => rfl
  | cons first others ih =>
    rw [List.length_cons, List.range_succ_eq_map, List.flatMap_cons, List.flatMap_map]
    simp only [List.getD_cons_succ, List.getD_cons_zero, Nat.add_right_cancel_iff]
    rw [ih]
    cases others with
    | nil => simp
    | cons second rest => simp [List.intercalate_cons_cons]

/-- The lines with what is stripped from them are the source. -/
theorem flatMap_ended (source : List Char) :
    ((List.range (LineIndex.ofSource source).lineCount).flatMap fun number =>
        ((LineIndex.ofSource source).line number).content ++
          ((LineIndex.ofSource source).line number).ending
            (number + 1 = (LineIndex.ofSource source).lineCount)) = source := by
  have count : (LineIndex.ofSource source).lineCount = (splitLines source).length := by
    rw [LineIndex.lineCount_eq, length_splitLines]
  simp only [Line.content_append_ending, text_line, count]
  rw [flatMap_newline, intercalate_splitLines]

theorem slice?_content (isThere : number < (LineIndex.ofSource source).lineCount) :
    slice? source ((LineIndex.ofSource source).line number).span.start
        ((LineIndex.ofSource source).line number).span.stop =
      some ((LineIndex.ofSource source).line number).content := by
  have isLine := isLine_of_lt isThere
  have ordered := ((LineIndex.ofSource source).line number).span.start_le_stop
  exact (slice?_eq_some isLine.boundary_start isLine.boundary_span ordered).trans
    (congrArg some (isLine.textOf_eq_textTo ordered (Line.span_stop_le _)))

/-! ## The index of lines -/

/-- At every offset where the source can be cut, or beyond its end, the line is the number of
newlines before it, and the column counts the characters behind the last of them; both grow with
the offset.  The ranges of the lines, each with what is stripped from it, make up the source.  The
search among the starts and the cuts find the same. -/
theorem lines_counted (source : List Char) :
    let index := LineIndex.ofSource source
    (∀ offset, Boundary source offset ∨ byteLength source ≤ offset →
      index.lineOf offset = (takeBytes offset source).count '\n' ∧
      index.position offset = ⟨(takeBytes offset source).count '\n' + 1,
        ((takeBytes offset source).reverse.takeWhile (· ≠ '\n')).length + 1⟩ ∧
      lineOf? source offset = some (index.lineOf offset) ∧
      position? source offset = some (index.position offset)) ∧
    (∀ first second, Boundary source first ∨ byteLength source ≤ first →
      Boundary source second ∨ byteLength source ≤ second → first ≤ second →
      index.lineOf first ≤ index.lineOf second ∧
      index.position first ≤ index.position second) ∧
    (∀ number < index.lineCount,
      let line := index.line number
      (lineStarts source)[number]? = some line.span.start ∧
      Snippet.lineRange? index number = some (line.span.start, line.span.stop) ∧
      slice? source line.span.start line.span.stop = some line.content ∧
      '\n' ∉ line.content ∧
      nextStart source number =
        line.span.stop + byteLength (line.ending (number + 1 = index.lineCount))) ∧
    ((List.range index.lineCount).flatMap fun number =>
      (index.line number).content ++
        (index.line number).ending (number + 1 = index.lineCount)) = source := by
  intro index
  constructor
  · intro offset ends
    have position := position_eq_after ends
    rw [Position.after_eq] at position
    exact ⟨LineIndex.lineOf_eq source offset, position, lineOf?_eq source offset,
      position?_eq ends⟩
  constructor
  · intro first second isFirst isSecond ordered
    exact ⟨lineOf_mono ordered, position_mono isFirst isSecond ordered⟩
  constructor
  · intro number isThere
    exact ⟨getElem?_lineStarts isThere, (isLine_of_lt isThere).lineRange?_eq,
      slice?_content isThere, newline_not_mem_content source number, nextStart_eq isThere⟩
  · exact flatMap_ended source

/-- A line behind a carriage return and a newline, with a character of two bytes, and a carriage
return at the end of the source. -/
theorem lines_counted_returns :
    let source := "a\r\nhé\r".toList
    Boundary source 6 ∧ byteLength source ≤ 9 ∧
      lineOf? source 6 = some 1 ∧ position? source 6 = some ⟨2, 3⟩ ∧
      position? source 9 = some ⟨2, 4⟩ ∧
      1 < (LineIndex.ofSource source).lineCount ∧
      nextStart source 1 = 7 ∧
      ((LineIndex.ofSource source).position 6 ≤ (LineIndex.ofSource source).position 9) := by
  intro source
  have inside : Boundary source 6 := ⟨"a\r\nhé".toList, ['\r'], rfl, rfl⟩
  have beyond : byteLength source ≤ 9 := by decide
  rcases lines_counted source with ⟨counted, grows, ranges, -⟩
  rcases counted 6 (.inl inside) with ⟨line, position, isLine, isPosition⟩
  rcases counted 9 (.inr beyond) with ⟨-, position', -, isPosition'⟩
  have isThere : 1 < (LineIndex.ofSource source).lineCount := by decide
  rcases ranges 1 isThere with ⟨-, -, -, -, next⟩
  have later := (grows 6 9 (.inl inside) (.inr beyond) (by decide)).2
  refine ⟨inside, beyond, ?_, ?_, ?_, isThere, ?_, later⟩
  · rw [isLine, line]
    decide
  · rw [isPosition, position]
    decide
  · rw [isPosition', position']
    decide
  · rw [next]
    decide

end TemplateLang
