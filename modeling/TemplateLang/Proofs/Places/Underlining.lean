import Mathlib.Data.Nat.Digits.Lemmas
import TemplateLang.Proofs.Coverage.Positions
import TemplateLang.Proofs.Places.Report
import TemplateLang.Report.Underlined

/-!
# Reports underline what their labels cover

A report is made of offsets: the ends of a span are moved into the source and then into a line,
and the numbers of lines come from a search.  What it shows can be told without them.  The
lines are counted by newlines, and a character of a labelled line has a caret under it exactly
if it begins inside of the span.
-/

namespace TemplateLang

open Snippet

variable {source : List Char} {span : Span}

/-! ## Cuts of texts -/

theorem dropBytes_min (limit : Nat) (text : List Char) :
    dropBytes (min limit (byteLength text)) text = dropBytes limit text := by
  have same : takeBytes limit text ++ dropBytes (min limit (byteLength text)) text =
      takeBytes limit text ++ dropBytes limit text := by
    rw [takeBytes_append_dropBytes, ← takeBytes_min, takeBytes_append_dropBytes]
  exact List.append_cancel_left same

/-- A cut behind a text goes on into what follows it. -/
theorem takeBytes_append_add (before rest : List Char) (limit : Nat) :
    takeBytes (byteLength before + limit) (before ++ rest) = before ++ takeBytes limit rest := by
  induction before with
  | nil => rw [byteLength_nil, Nat.zero_add, List.nil_append, List.nil_append]
  | cons c before ih =>
    have sizePositive := c.utf8Size_pos
    rw [byteLength_cons, List.cons_append, takeBytes, if_neg (by omega), Nat.add_assoc,
      Nat.add_sub_cancel_left, ih, List.cons_append]

/-- A cut of a source inside of a text is a cut of the text. -/
theorem boundary_inside {before text after : List Char} {offset : Nat}
    (boundary : Boundary (before ++ text ++ after) (byteLength before + offset))
    (within : offset ≤ byteLength text) : Boundary text offset := by
  rw [← isBoundary_iff, isBoundary, decide_eq_true_iff] at boundary ⊢
  rw [List.append_assoc, takeBytes_append_add, takeBytes_append_of_le after within,
    byteLength_append] at boundary
  omega

/-! ## The text of a line -/

namespace Line

/-- A line is shown without the carriage return that ends it. -/
theorem span_stop_eq (line : Line) :
    line.span.stop = line.start + byteLength (textOfLine line) := by
  have ends : line.span.stop = max (if line.text.getLast? = some '\r' then line.stop - 1
      else line.stop) line.start := rfl
  rw [ends, textOfLine]
  split
  · rename_i isReturn
    rcases List.getLast?_eq_some_iff.mp isReturn with ⟨front, isSplit⟩
    have one : '\r'.utf8Size = 1 := rfl
    rw [Line.stop, isSplit, List.dropLast_concat, byteLength_append, byteLength_cons, one]
    simp only [byteLength_nil]
    omega
  · rw [Line.stop]
    omega

theorem textOfLine_append (line : Line) : ∃ back, line.text = textOfLine line ++ back := by
  rw [textOfLine]
  split
  · rename_i isReturn
    rcases List.getLast?_eq_some_iff.mp isReturn with ⟨front, isSplit⟩
    exact ⟨['\r'], by rw [isSplit, List.dropLast_concat]⟩
  · exact ⟨[], (List.append_nil _).symm⟩

theorem content_eq (line : Line) : line.content = textOfLine line := by
  rcases line.textOfLine_append with ⟨back, isSplit⟩
  rw [content, textTo, span_stop_eq, Nat.add_sub_cancel_left]
  conv_lhs => rw [isSplit]
  rw [takeBytes_append]

end Line

/-! ## Labelled lines -/

theorem extent_start (source : List Char) (span : Span) :
    (extent (LineIndex.ofSource source) span).start = min span.start (byteLength source) :=
  rfl

theorem extent_stop (source : List Char) (span : Span) :
    (extent (LineIndex.ofSource source) span).stop =
      max (min span.stop (byteLength source)) (min span.start (byteLength source)) :=
  rfl

/-- A span covers what is between the ends of its extent. -/
theorem textOf_extent {before text after : List Char} (isSplit : source = before ++ text ++ after)
    (starts : (extent (LineIndex.ofSource source) span).start = byteLength before)
    (stops : (extent (LineIndex.ofSource source) span).stop = byteLength (before ++ text)) :
    span.textOf source = text := by
  have ordered := span.start_le_stop
  have whole : byteLength source = byteLength before + byteLength text + byteLength after := by
    rw [isSplit, byteLength_append, byteLength_append]
  rw [extent_start] at starts
  rw [extent_stop, byteLength_append] at stops
  have rest : dropBytes span.start source = text ++ after := by
    rw [← dropBytes_min, starts, isSplit, List.append_assoc, dropBytes_append]
  have length : min span.length (byteLength (text ++ after)) = byteLength text := by
    rw [byteLength_append, Span.length]
    omega
  rw [Span.textOf, rest, ← takeBytes_min, length, takeBytes_append]

theorem extent_first (source : List Char) (span : Span) :
    (extent (LineIndex.ofSource source) span).first = firstLine source span := by
  have first : (extent (LineIndex.ofSource source) span).first =
      (LineIndex.ofSource source).lineOf (min span.start (byteLength source)) := rfl
  rw [first, LineIndex.lineOf_eq, takeBytes_min, firstLine]

/-- The line of the last byte of a text is that of its last character. -/
theorem count_takeBytes_last (before after : List Char) (c : Char) :
    (takeBytes (byteLength (before ++ [c]) - 1) (before ++ c :: after)).count '\n' =
      before.count '\n' := by
  have sizePositive := c.utf8Size_pos
  have limit : byteLength (before ++ [c]) - 1 = byteLength before + (c.utf8Size - 1) := by
    rw [byteLength_append, byteLength_cons, byteLength_nil]
    omega
  rw [limit, takeBytes_append_add, List.count_append]
  by_cases newline : c = '\n'
  · subst newline
    have none : '\n'.utf8Size - 1 = 0 := rfl
    rw [none, takeBytes, if_pos rfl, List.count_nil, Nat.add_zero]
  · rw [takeBytes]
    split
    · rw [List.count_nil, Nat.add_zero]
    · have past : c.utf8Size - 1 - c.utf8Size = 0 := by omega
      rw [past, List.count_cons_of_ne newline]
      cases after <;> simp [takeBytes]

theorem extent_last (ends : span.EndsOn source) :
    (extent (LineIndex.ofSource source) span).last = lastLine source span := by
  have onExtent := on_extent ends
  rcases onExtent.start.between onExtent.stop (Nat.le_max_right _ _) with
    ⟨before, text, after, isSplit, starts, stops⟩
  have first : firstLine source span = before.count '\n' := by
    rw [extent_start] at starts
    rw [firstLine, ← takeBytes_min, starts, isSplit, List.append_assoc, takeBytes_append]
  have last : (extent (LineIndex.ofSource source) span).last =
      if (extent (LineIndex.ofSource source) span).start <
          (extent (LineIndex.ofSource source) span).stop then
        (LineIndex.ofSource source).lineOf ((extent (LineIndex.ofSource source) span).stop - 1)
      else (extent (LineIndex.ofSource source) span).first := rfl
  rw [last, lastLine, textOf_extent isSplit starts stops, starts, stops, extent_first, first]
  rcases List.eq_nil_or_concat' text with rfl | ⟨front, c, rfl⟩
  · rw [List.append_nil, if_neg (Nat.lt_irrefl _)]
    rfl
  · have sizePositive := c.utf8Size_pos
    have isLonger : byteLength before < byteLength (before ++ (front ++ [c])) := by
      simp only [byteLength_append, byteLength_cons]
      omega
    have regroup : before ++ (front ++ [c]) ++ after = (before ++ front) ++ c :: after := by simp
    rw [if_pos isLonger, LineIndex.lineOf_eq, isSplit, regroup, ← List.append_assoc,
      count_takeBytes_last, List.count_append, List.dropLast_concat]

/-! ## Shown lines -/

/-- What holds of the numbers in the middle of a range alone picks them out. -/
theorem filter_range {low length rest : Nat} {holds : Nat → Bool}
    (before : ∀ number, number < low → holds number = false)
    (within : ∀ number, low ≤ number → number < low + length → holds number = true)
    (after : ∀ number, low + length ≤ number → number < low + length + rest →
      holds number = false) :
    (List.range (low + length + rest)).filter holds = List.range' low length := by
  have isSplit : List.range (low + length + rest) =
      List.range' 0 low ++ (List.range' low length ++ List.range' (low + length) rest) := by
    rw [List.range_eq_range', Nat.add_assoc, ← List.range'_append_1, ← List.range'_append_1,
      Nat.zero_add]
  have noneBefore : (List.range' 0 low).filter holds = [] := by
    apply List.filter_eq_nil_iff.mpr
    intro number isIn
    rw [List.mem_range'_1] at isIn
    rw [before number (by omega)]
    exact Bool.false_ne_true
  have allWithin : (List.range' low length).filter holds = List.range' low length := by
    apply List.filter_eq_self.mpr
    intro number isIn
    rw [List.mem_range'_1] at isIn
    exact within number isIn.1 isIn.2
  have noneAfter : (List.range' (low + length) rest).filter holds = [] := by
    apply List.filter_eq_nil_iff.mpr
    intro number isIn
    rw [List.mem_range'_1] at isIn
    rw [after number isIn.1 isIn.2]
    exact Bool.false_ne_true
  rw [isSplit, List.filter_append, List.filter_append, noneBefore, allWithin, noneAfter,
    List.nil_append, List.append_nil]

theorem firstLine_lt (source : List Char) (span : Span) :
    firstLine source span < (splitLines source).length := by
  have count := congrArg (List.count '\n') (takeBytes_append_dropBytes span.start source)
  rw [List.count_append] at count
  rw [length_splitLines, firstLine]
  omega

/-- The shown lines follow each other, from the first to the last of them. -/
theorem shownLines_eq (source : List Char) (span : Span) :
    shownLines source span =
      List.range' (firstLine source span - context)
        (min (lastLine source span + context) ((splitLines source).length - 1) + 1 -
          (firstLine source span - context)) := by
  have isThere := firstLine_lt source span
  have ordered : firstLine source span ≤ lastLine source span := Nat.le_add_right _ _
  have count : (splitLines source).length = firstLine source span - context +
      (min (lastLine source span + context) ((splitLines source).length - 1) + 1 -
        (firstLine source span - context)) +
      ((splitLines source).length -
        (min (lastLine source span + context) ((splitLines source).length - 1) + 1)) := by
    omega
  rw [shownLines]
  conv_lhs => rw [count]
  apply filter_range
  · intro number isBefore
    rw [decide_eq_false_iff_not]
    omega
  · intro number isLow isHigh
    rw [decide_eq_true_iff]
    omega
  · intro number isHigh isThere'
    rw [decide_eq_false_iff_not]
    omega

/-! ## Numbers of lines -/

/-- A greater number is not shorter. -/
theorem length_toString_mono {m n : Nat} (le : m ≤ n) :
    (toString m).length ≤ (toString n).length := by
  have digits : ∀ k : Nat, (toString k).length = (Nat.toDigits 10 k).length := by
    intro k
    rw [Nat.toString_eq_ofList_toDigits, String.length_ofList]
  have some : 0 < (Nat.toDigits 10 n).length := List.length_pos_iff.mpr Nat.toDigits_ne_nil
  have isBelow := (Nat.length_toDigits_le_iff (by decide) some).mp (Nat.le_refl _)
  rw [digits, digits, Nat.length_toDigits_le_iff (by decide) some]
  exact Nat.lt_of_le_of_lt le isBelow

/-- Of the numbers up to one the last takes the most columns. -/
theorem foldr_max_range' {low count : Nat} {width : Nat → Nat}
    (mono : ∀ {m n}, m ≤ n → width m ≤ width n) :
    ((List.range' low (count + 1)).map width).foldr max 0 = width (low + count) := by
  induction count generalizing low with
  | zero => simp
  | succ count ih =>
    rw [List.range'_succ, List.map_cons, List.foldr_cons, ih]
    rw [Nat.max_eq_right (mono (by omega)), Nat.add_assoc, Nat.add_comm 1]

theorem gutterWidth_eq (source : List Char) (span : Span) :
    gutterWidth source span = (toString
      (min (lastLine source span + context) ((splitLines source).length - 1) + 1)).length := by
  have isThere := firstLine_lt source span
  have ordered : firstLine source span ≤ lastLine source span := Nat.le_add_right _ _
  have count : min (lastLine source span + context) ((splitLines source).length - 1) + 1 -
      (firstLine source span - context) =
      min (lastLine source span + context) ((splitLines source).length - 1) -
        (firstLine source span - context) + 1 := by
    omega
  rw [gutterWidth, shownLines_eq, count,
    foldr_max_range' fun le => length_toString_mono (Nat.succ_le_succ le)]
  congr 3
  omega

/-- The number of a shown line fits into the gutter, and fills it. -/
theorem length_alignRight {number : Nat} (isShown : number ∈ shownLines source span) :
    (alignRight (gutterWidth source span) (toString (number + 1))).length =
      gutterWidth source span := by
  have fits : (toString (number + 1)).length ≤ gutterWidth source span := by
    rw [shownLines_eq, List.mem_range'_1] at isShown
    rw [gutterWidth_eq]
    exact length_toString_mono (by omega)
  rw [alignRight, String.length_append, String.length_pushn, String.length_empty]
  omega

/-! ## Marks -/

theorem blank_ne_caret (c : Char) : blank c ≠ '^' := by
  rw [blank]
  split <;> decide

theorem underline_append (offset : Nat) (front back : List Char) :
    underline span offset (front ++ back) =
      underline span offset front ++ underline span (offset + byteLength front) back := by
  induction front generalizing offset with
  | nil => rfl
  | cons c front ih =>
    rw [List.cons_append, underline, ih, underline, byteLength_cons, List.cons_append,
      Nat.add_assoc]

/-- A text inside of a span has a caret under each character. -/
theorem underline_inside {offset : Nat} {text : List Char} (after : span.start ≤ offset)
    (before : offset + byteLength text ≤ span.stop) :
    underline span offset text = List.replicate text.length '^' := by
  induction text generalizing offset with
  | nil => rfl
  | cons c rest ih =>
    have sizePositive := c.utf8Size_pos
    rw [byteLength_cons] at before
    rw [underline, if_pos ⟨after, by omega⟩, ih (by omega) (by omega)]
    rfl

/-- A text outside of a span has none. -/
theorem underline_outside {offset : Nat} {text : List Char}
    (outside : offset + byteLength text ≤ span.start ∨ span.stop ≤ offset) :
    underline span offset text = text.map blank := by
  induction text generalizing offset with
  | nil => rfl
  | cons c rest ih =>
    have sizePositive := c.utf8Size_pos
    rw [byteLength_cons] at outside
    rw [underline, if_neg (by omega), ih (by omega)]
    rfl

/-- What has no caret is left out behind the last one. -/
theorem upToCaret_append_of_free {front back : List Char} (free : '^' ∉ back) :
    upToCaret (front ++ back) = upToCaret front := by
  have allFree : ∀ c ∈ back.reverse, decide (c ≠ '^') = true := by
    intro c isIn
    rw [decide_eq_true_iff]
    rintro rfl
    exact free (List.mem_reverse.mp isIn)
  rw [upToCaret, List.reverse_append, List.dropWhile_append_of_pos allFree, upToCaret]

theorem upToCaret_concat (front : List Char) : upToCaret (front ++ ['^']) = front ++ ['^'] := by
  rw [upToCaret, List.reverse_concat, List.dropWhile_cons_of_neg (by decide),
    List.reverse_cons, List.reverse_reverse]

theorem caret_notMem_map_blank (text : List Char) : '^' ∉ text.map blank := by
  intro isIn
  rcases List.mem_map.mp isIn with ⟨c, _, isCaret⟩
  exact blank_ne_caret c isCaret

/-- Blanks, carets and blanks are kept up to the last caret, if there is one. -/
theorem upToCaret_eq (front back : List Char) (count : Nat) :
    upToCaret (front.map blank ++ List.replicate count '^' ++ back.map blank) =
      if count = 0 then [] else front.map blank ++ List.replicate count '^' := by
  rw [upToCaret_append_of_free (caret_notMem_map_blank back)]
  cases count with
  | zero =>
    have free : upToCaret ([] ++ front.map blank) = upToCaret [] :=
      upToCaret_append_of_free (caret_notMem_map_blank front)
    rw [List.replicate_zero, List.append_nil, if_pos rfl]
    exact free
  | succ count =>
    rw [if_neg (Nat.succ_ne_zero count), List.replicate_succ', ← List.append_assoc,
      upToCaret_concat]

/-! ### The part of a line that is marked -/

section

variable {number : Nat}

/-- A line starts at or before a span if it is not after the first line of the span. -/
theorem start_le_start_iff (isThere : number < (LineIndex.ofSource source).lineCount) :
    ((LineIndex.ofSource source).line number).start ≤ span.start ↔
      number ≤ firstLine source span :=
  LineIndex.start_line_le_iff isThere span.start

theorem lastLine_lt (source : List Char) (span : Span) :
    lastLine source span < (LineIndex.ofSource source).lineCount := by
  have before := congrArg (List.count '\n') (takeBytes_append_dropBytes span.start source)
  have covered := congrArg (List.count '\n')
    (takeBytes_append_dropBytes span.length (dropBytes span.start source))
  have fewer := (List.dropLast_sublist (span.textOf source)).count_le '\n'
  rw [List.count_append] at before covered
  rw [Span.textOf] at fewer
  rw [LineIndex.lineCount_eq, lastLine, firstLine, Span.textOf]
  omega

/-- A line that a span goes on behind ends inside of it. -/
theorem stop_lt_stop (ends : span.EndsOn source) (low : firstLine source span ≤ number)
    (high : number < lastLine source span) :
    ((LineIndex.ofSource source).line number).stop <
      (extent (LineIndex.ofSource source) span).stop := by
  have isThere : number < (LineIndex.ofSource source).lineCount :=
    Nat.lt_trans high (lastLine_lt source span)
  have isThere' : number + 1 < (LineIndex.ofSource source).lineCount :=
    Nat.lt_of_le_of_lt high (lastLine_lt source span)
  have isNext : lineStop (LineIndex.ofSource source) number =
      ((LineIndex.ofSource source).line (number + 1)).start - 1 := by
    simp only [lineStop, (isLine_of_lt isThere').found]
  have last : (if (extent (LineIndex.ofSource source) span).start <
        (extent (LineIndex.ofSource source) span).stop then
      (LineIndex.ofSource source).lineOf ((extent (LineIndex.ofSource source) span).stop - 1)
      else (extent (LineIndex.ofSource source) span).first) = lastLine source span :=
    extent_last ends
  rw [extent_first] at last
  split at last
  · rw [LineIndex.lineOf_eq] at last
    have nextStarts := (LineIndex.start_line_le_iff isThere'
      ((extent (LineIndex.ofSource source) span).stop - 1)).mpr (by omega)
    rw [← (isLine_of_lt isThere).next, isNext]
    omega
  · omega

/-- Moving the ends of a span into a source and then into a line of it moves none of them over
a character of the line. -/
theorem bounds_of_endOn {isFirst isLast : Bool} {low high size : Nat} (ordered : low ≤ high)
    (within : high ≤ size) (first : isFirst = true ↔ low ≤ span.start)
    (last : isLast = false → high < max (min span.stop size) (min span.start size)) :
    let start := endOn isFirst low high (min span.start size) low
    let stop := endOn isLast start high (max (min span.stop size) (min span.start size)) high
    (start = low ∨ start ≤ span.start) ∧
      (start = stop ∨ span.start ≤ start ∧ stop ≤ span.stop) ∧
      (stop = high ∨ span.stop ≤ stop) := by
  have inOrder := span.start_le_stop
  cases isFirst with
  | true =>
    have isBefore := first.mp rfl
    cases isLast with
    | true =>
      simp only [endOn, clamp, if_true]
      omega
    | false =>
      have goesOn := last rfl
      simp only [endOn, clamp, if_true, Bool.false_eq_true, if_false, true_or, and_true]
      omega
  | false =>
    have isAfter : span.start < low := Nat.lt_of_not_le fun isBefore =>
      Bool.false_ne_true (first.mpr isBefore)
    cases isLast with
    | true =>
      simp only [endOn, clamp, if_true, Bool.false_eq_true, if_false, true_or, true_and]
      omega
    | false =>
      have goesOn := last rfl
      simp only [endOn, Bool.false_eq_true, if_false, true_or, true_and, and_true]
      omega

/-- The marked part of a line of a source. -/
def markOn (source : List Char) (span : Span) (number : Nat) : Snippet.Mark :=
  mark (LineIndex.ofSource source) (extent (LineIndex.ofSource source) span) number

/-- The marked part of a labelled line leaves out what is outside of the span and nothing else. -/
theorem marked_bounds (ends : span.EndsOn source) (low : firstLine source span ≤ number)
    (high : number ≤ lastLine source span) :
    ((markOn source span number).start = ((LineIndex.ofSource source).line number).start ∨
        (markOn source span number).start ≤ span.start) ∧
      ((markOn source span number).start = (markOn source span number).stop ∨
        span.start ≤ (markOn source span number).start ∧
          (markOn source span number).stop ≤ span.stop) ∧
      ((markOn source span number).stop = ((LineIndex.ofSource source).line number).span.stop ∨
        span.stop ≤ (markOn source span number).stop) := by
  have isThere : number < (LineIndex.ofSource source).lineCount :=
    Nat.lt_of_le_of_lt high (lastLine_lt source span)
  have first : decide (number = firstLine source span) = true ↔
      ((LineIndex.ofSource source).line number).start ≤ span.start := by
    rw [start_le_start_iff isThere, decide_eq_true_iff]
    omega
  have last : decide (number = lastLine source span) = false →
      ((LineIndex.ofSource source).line number).span.stop <
        (extent (LineIndex.ofSource source) span).stop := by
    intro isEarlier
    rw [decide_eq_false_iff_not] at isEarlier
    have inLine := ((LineIndex.ofSource source).line number).span_stop_le
    have goesOn := stop_lt_stop ends low (Nat.lt_of_le_of_ne high isEarlier)
    omega
  have bounds := bounds_of_endOn ((LineIndex.ofSource source).line number).span.start_le_stop
    (isLine_of_lt isThere).boundary_span.le first last
  rw [markOn, mark_eq, extent_first, extent_last ends]
  exact bounds

/-- A mark cuts the text of its line into what is before it, what it covers and what is after. -/
theorem IsMark.parts {index : LineIndex} {line : Line} {mark : Snippet.Mark}
    (isMark : IsMark index line mark) (isLine : IsLine index number line) :
    ∃ before covered after, textOfLine line = before ++ covered ++ after ∧
      mark.start = line.start + byteLength before ∧
      mark.stop = mark.start + byteLength covered ∧ line.textTo mark.start = before ∧
      (Span.between mark.start mark.stop).textOf index.source = covered := by
  rcases isLine.spells with ⟨front, rest, isSplit, starts⟩
  rcases line.textOfLine_append with ⟨back, textEq⟩
  have low : line.start ≤ mark.start := isMark.after
  have middle := isMark.ordered
  have high := isMark.before
  rw [line.span_stop_eq] at high
  have isSource : index.source = front ++ textOfLine line ++ (back ++ rest) := by
    rw [isSplit, textEq, List.append_assoc, List.append_assoc, List.append_assoc]
  have inside : ∀ offset, Boundary index.source offset → line.start ≤ offset →
      offset ≤ line.start + byteLength (textOfLine line) →
      Boundary (textOfLine line) (offset - line.start) := by
    intro offset boundary isLow isHigh
    have split : offset = byteLength front + (offset - line.start) := by omega
    rw [isSource, split] at boundary
    exact boundary_inside boundary (by omega)
  rcases (inside _ isMark.start low (by omega)).between
    (inside _ isMark.stop (by omega) high) (by omega) with
    ⟨before, covered, after, parts, startEq, stopEq⟩
  rw [byteLength_append] at stopEq
  refine ⟨before, covered, after, parts, by omega, by omega, ?_, ?_⟩
  · rw [Line.textTo, startEq, textEq, parts, List.append_assoc, List.append_assoc,
      takeBytes_append]
  · have regroup : index.source = front ++ before ++ covered ++ (after ++ (back ++ rest)) := by
      rw [isSource, parts]
      simp only [List.append_assoc]
    have startEq' : mark.start = byteLength (front ++ before) := by
      rw [byteLength_append]
      omega
    have stopEq' : mark.stop = byteLength (front ++ before ++ covered) := by
      rw [byteLength_append, byteLength_append]
      omega
    rw [regroup, startEq', stopEq', textOf_between]

/-- Carets stand under what is covered, if no more and no less than that is in the span. -/
theorem underline_parts {offset : Nat} {before covered after : List Char}
    (isBefore : before = [] ∨ offset + byteLength before ≤ span.start)
    (isCovered : covered = [] ∨ span.start ≤ offset + byteLength before ∧
      offset + byteLength before + byteLength covered ≤ span.stop)
    (isAfter : after = [] ∨ span.stop ≤ offset + byteLength before + byteLength covered) :
    underline span offset (before ++ covered ++ after) =
      before.map blank ++ List.replicate covered.length '^' ++ after.map blank := by
  have underBefore : underline span offset before = before.map blank := by
    rcases isBefore with rfl | isBefore
    · rfl
    · exact underline_outside (.inl isBefore)
  have underCovered : underline span (offset + byteLength before) covered =
      List.replicate covered.length '^' := by
    rcases isCovered with rfl | ⟨starts, stops⟩
    · rfl
    · exact underline_inside starts stops
  have underAfter : underline span (offset + byteLength (before ++ covered)) after =
      after.map blank := by
    rw [byteLength_append, ← Nat.add_assoc]
    rcases isAfter with rfl | isAfter
    · rfl
    · exact underline_outside (.inr isAfter)
  rw [underline_append, underline_append, underBefore, underCovered, underAfter]

/-- On its first line a mark starts with the span, or else with what ends the line. -/
theorem start_markOn_first (source : List Char) (span : Span) :
    let line := (LineIndex.ofSource source).line (firstLine source span)
    (markOn source span (firstLine source span)).start =
      line.start + min (span.start - line.start) (byteLength (textOfLine line)) := by
  intro line
  have isThere : firstLine source span < (LineIndex.ofSource source).lineCount :=
    Nat.lt_of_le_of_lt (Nat.le_add_right _ _) (lastLine_lt source span)
  have inSource : line.span.stop ≤ byteLength source := (isLine_of_lt isThere).boundary_span.le
  have starts : line.start ≤ span.start := (start_le_start_iff isThere).mpr (Nat.le_refl _)
  have isFirst : (markOn source span (firstLine source span)).start =
      clamp line.start line.span.stop (min span.start (byteLength source)) := by
    rw [markOn, mark_eq, extent_first, decide_eq_true rfl]
    rfl
  rw [line.span_stop_eq] at inSource isFirst
  rw [isFirst, clamp]
  omega

/-- The lone caret of a span stands where its mark starts. -/
theorem loneCaret_eq {before after : List Char}
    (parts : textOfLine ((LineIndex.ofSource source).line (firstLine source span)) =
      before ++ after)
    (startEq : (markOn source span (firstLine source span)).start =
      ((LineIndex.ofSource source).line (firstLine source span)).start + byteLength before) :
    loneCaret span ((LineIndex.ofSource source).line (firstLine source span)) =
      before.map blank ++ ['^'] := by
  have limit := Nat.add_left_cancel ((start_markOn_first source span).symm.trans startEq)
  rw [loneCaret, ← takeBytes_min, limit, parts, takeBytes_append]

/-- Under a labelled line stand blanks for what is before the mark and carets for what the mark
covers. -/
theorem marks_eq (ends : span.EndsOn source) (low : firstLine source span ≤ number)
    (high : number ≤ lastLine source span) :
    let index := LineIndex.ofSource source
    let carets := caretCount index (extent index span) (markOn source span number)
    marks source span (index.line number) =
      if carets = 0 then []
      else padding index number (markOn source span number) ++ List.replicate carets '^' := by
  intro index carets
  have isThere : number < (LineIndex.ofSource source).lineCount :=
    Nat.lt_of_le_of_lt high (lastLine_lt source span)
  have isLine := isLine_of_lt isThere
  have isMark : IsMark (LineIndex.ofSource source) ((LineIndex.ofSource source).line number)
    (markOn source span number) := isMark_mark isLine (on_extent ends)
  rcases isMark.parts isLine with
    ⟨before, covered, after, parts, startEq, stopEq, beforeEq, coveredEq⟩
  rcases marked_bounds ends low high with ⟨isBefore, isCovered, isAfter⟩
  have stopOfLine := ((LineIndex.ofSource source).line number).span_stop_eq
  rw [parts, byteLength_append, byteLength_append] at stopOfLine
  have under : underline span ((LineIndex.ofSource source).line number).start
      (textOfLine ((LineIndex.ofSource source).line number)) =
      before.map blank ++ List.replicate covered.length '^' ++ after.map blank := by
    rw [parts]
    apply underline_parts
    · rw [← byteLength_eq_zero_iff]
      omega
    · rw [← byteLength_eq_zero_iff]
      omega
    · rw [← byteLength_eq_zero_iff]
      omega
  have paddingEq : padding index number (markOn source span number) = before.map blank := by
    rw [padding, beforeEq]
    rfl
  have caretsEq : carets = if firstLine source span = lastLine source span then
      max covered.length 1 else covered.length := by
    rw [← extent_first, ← extent_last ends, ← coveredEq]
    rfl
  rw [marks, under, upToCaret_eq, paddingEq, caretsEq]
  by_cases isOne : firstLine source span = lastLine source span
  · have same : number = firstLine source span := by omega
    subst same
    rw [if_pos isOne]
    cases covered with
    | nil =>
      rw [List.append_nil] at parts
      exact (if_pos ⟨rfl, isOne⟩).trans (loneCaret_eq parts startEq)
    | cons c covered =>
      have longer : max (c :: covered).length 1 = (c :: covered).length :=
        Nat.max_eq_left (Nat.succ_le_succ (Nat.zero_le _))
      rw [longer]
      exact if_neg fun none => by simp at none
  · rw [if_neg isOne]
    exact if_neg fun none => isOne none.2

/-! ## Reports -/

/-- What underlines a labelled line is the row of its marks. -/
theorem markerRow_eq {label : Label} (ends : label.span.EndsOn source) {number : Nat}
    (low : firstLine source label.span ≤ number) (high : number ≤ lastLine source label.span)
    (width : Nat) :
    markerRow (LineIndex.ofSource source) (extent (LineIndex.ofSource source) label.span) label
        width number =
      if marks source label.span ((LineIndex.ofSource source).line number) = [] then ""
      else row ("".pushn ' ' width)
        (marks source label.span ((LineIndex.ofSource source).line number) ++
          if number = lastLine source label.span ∧ label.message ≠ "" then
            ' ' :: label.message.toList else []) := by
  have message : (if number = (extent (LineIndex.ofSource source) label.span).last &&
        !label.message.isEmpty then ' ' :: label.message.toList else []) =
      if number = lastLine source label.span ∧ label.message ≠ "" then
        ' ' :: label.message.toList else [] := by
    simp [extent_last ends]
  rw [marks_eq ends low high, markerRow, ← markOn, message]
  by_cases none : caretCount (LineIndex.ofSource source)
      (extent (LineIndex.ofSource source) label.span) (markOn source label.span number) = 0
  · rw [if_pos none, if_pos none]
    rfl
  · rw [if_neg none, if_neg none]
    exact (if_neg (by simp [none])).symm

/-- The rows of a line are those of the report. -/
theorem lineRows_eq {label : Label} (ends : label.span.EndsOn source) (number : Nat) :
    lineRows (LineIndex.ofSource source) (extent (LineIndex.ofSource source) label.span) label
        (gutterWidth source label.span) number =
      underlinedRows source label number := by
  rw [lineRows, underlinedRows, extent_first, extent_last ends, Line.content_eq]
  by_cases isLabelled : firstLine source label.span ≤ number ∧ number ≤ lastLine source label.span
  · rw [if_pos isLabelled, if_pos isLabelled, markerRow_eq ends isLabelled.1 isLabelled.2]
  · rw [if_neg isLabelled, if_neg isLabelled, if_pos rfl, String.append_empty]

/-- The lines that a report shows are the underlined ones. -/
theorem body_eq {label : Label} (ends : label.span.EndsOn source) :
    body source label = underlined source label := by
  have count : (LineIndex.ofSource source).lineCount = (splitLines source).length := by
    rw [LineIndex.lineCount_eq, length_splitLines]
  have rows := funext (lineRows_eq ends)
  rw [body, underlined, shownLines_eq, ← rows]
  simp only [extent_first, extent_last ends, count, ← gutterWidth_eq]

/-- A report whose label ends at boundaries or beyond the source is the headline, the shown lines
and the help, and no cut of the source in it is refused.  The shown lines are those of the source
around the labelled ones, each of them once, in order and behind its number in a gutter as wide
as the longest of these.  Under a labelled line stand carets below the characters that begin
inside of the span, and below no others. -/
theorem report?_eq_underlined {diagnostic : Diagnostic} {label : Label}
    (isPrimary : diagnostic.primaryLabel? = some label) (ends : label.span.EndsOn source) :
    diagnostic.report? source = some (diagnostic.headline ++ underlined source label ++
      match diagnostic.help with
      | some help => "\n  = help: " ++ help
      | none => "") ∧
    diagnostic.report? source = some (diagnostic.report source) ∧
    (∀ number ∈ shownLines source label.span,
      (alignRight (gutterWidth source label.span) (toString (number + 1))).length =
        gutterWidth source label.span) := by
  have isReport : diagnostic.report? source = some (diagnostic.report source) := by
    apply report?_eq
    rw [isPrimary]
    rintro _ ⟨⟩
    exact ends
  refine ⟨?_, isReport, fun _ => length_alignRight⟩
  rw [isReport]
  cases isHelp : diagnostic.help <;>
    simp only [Diagnostic.report, isPrimary, isHelp, body_eq ends]

/-- A span from the middle of a line, with a tab before it, over an empty line to beyond the end. -/
theorem report?_eq_underlined_beyond :
    ∃ (diagnostic : Diagnostic) (label : Label),
      diagnostic.primaryLabel? = some label ∧
      label.span = Span.between 2 20 ∧ label.span.EndsOn "a\tbé\r\n\ncd\n".toList ∧
      diagnostic.report? "a\tbé\r\n\ncd\n".toList =
        some "error: bad\n  1 | a\tbé\n    |  \t^^\n  2 |\n  3 | cd\n    | ^^ here\n  4 |" := by
  have ends : (Span.between 2 20).EndsOn "a\tbé\r\n\ncd\n".toList :=
    ⟨.inl (isBoundary_iff.mp (by decide +kernel)), .inr (by decide +kernel)⟩
  exact ⟨⟨.error, none, "bad", [⟨Span.between 2 20, "here", true⟩], none⟩, _, rfl, rfl, ends,
    (report?_eq_underlined rfl ends).1.trans (by decide +kernel)⟩

end

end TemplateLang
