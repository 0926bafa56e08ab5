import TemplateLang.Proofs.Places.Boundary
import TemplateLang.Report.Sliced

/-!
# Reports cut the source where it can be cut

A report cuts lines, and parts of lines before and under a label, out of the source.  Lines
begin and end at boundaries, and so does a label whose span ends at boundaries or beyond the
source; moving an offset into a line keeps it at a boundary.  So every cut of such a report
succeeds, and the report by slicing is the report.
-/

namespace TemplateLang

open Snippet

variable {source : List Char}

/-! ## Cuts -/

theorem isBoundary_iff {offset : Nat} :
    isBoundary source offset = true ↔ Boundary source offset := by
  rw [isBoundary, decide_eq_true_iff]
  constructor
  · intro exactly
    exact ⟨_, _, (takeBytes_append_dropBytes offset source).symm, exactly.symm⟩
  · rintro ⟨before, after, rfl, rfl⟩
    rw [takeBytes_append]

/-- Between two boundaries in order the source can be cut out. -/
theorem slice?_eq_some {start stop : Nat} (starts : Boundary source start)
    (stops : Boundary source stop) (ordered : start ≤ stop) :
    slice? source start stop = some ((Span.between start stop).textOf source) := by
  have length : (Span.between start stop).length = stop - start := by
    simp only [Span.length, Span.between]
    omega
  rw [slice?, if_pos ⟨ordered, isBoundary_iff.mpr starts, isBoundary_iff.mpr stops⟩,
    Span.textOf, length]
  rfl

/-- A text between two others is cut out by its offsets. -/
theorem textOf_between (before text after : List Char) :
    (Span.between (byteLength before) (byteLength (before ++ text))).textOf
      (before ++ text ++ after) = text := by
  have length : (Span.between (byteLength before) (byteLength (before ++ text))).length =
      byteLength text := by
    simp only [Span.length, Span.between, byteLength_append]
    omega
  rw [Span.textOf, length, List.append_assoc]
  change takeBytes _ (dropBytes (byteLength before) (before ++ (text ++ after))) = text
  rw [dropBytes_append, takeBytes_append]

/-- What follows a text does not matter to a cut inside of it. -/
theorem takeBytes_append_of_le {limit : Nat} {front : List Char} (back : List Char)
    (within : limit ≤ byteLength front) :
    takeBytes limit (front ++ back) = takeBytes limit front := by
  induction front generalizing limit with
  | nil =>
    rcases Nat.le_zero.mp within with rfl
    cases back <;> rfl
  | cons c front ih =>
    rw [List.cons_append, takeBytes, takeBytes]
    split
    · rfl
    · rw [byteLength_cons] at within
      rw [ih (by omega)]

/-! ## Lines -/

/-- A line of a source: where it stands, and where the next one begins. -/
structure IsLine (index : LineIndex) (number : Nat) (line : Line) : Prop where
  found : index.lines[number]? = some line
  spells : ∃ before after, index.source = before ++ line.text ++ after ∧
    line.start = byteLength before
  next : lineStop index number = line.stop

/-- Lines that are placed one after the other, with newlines between them. -/
theorem placed_line {parts : List (List Char)} {start number : Nat} {line : Line}
    (found : (placeLines start parts)[number]? = some line) :
    ∃ before after, ['\n'].intercalate parts = before ++ line.text ++ after ∧
      line.start = start + byteLength before ∧
      (match (placeLines start parts)[number + 1]? with
        | some next => next.start - 1
        | none => start + byteLength (['\n'].intercalate parts)) = line.stop := by
  induction parts generalizing start number with
  | nil => simp [placeLines] at found
  | cons first others ih =>
    cases number with
    | zero =>
      rcases Option.some.inj found with rfl
      cases others with
      | nil => exact ⟨[], [], by simp, rfl, by simp [placeLines, Line.stop]⟩
      | cons second rest =>
        refine ⟨[], '\n' :: ['\n'].intercalate (second :: rest), ?_, rfl, ?_⟩
        · rfl
        · simp [placeLines, Line.stop]
    | succ number =>
      rcases ih found with ⟨before, after, split, starts, stops⟩
      have joined : ['\n'].intercalate (first :: others) =
          first ++ '\n' :: ['\n'].intercalate others := by
        cases others with
        | nil => simp [placeLines] at found
        | cons second rest => rfl
      refine ⟨first ++ '\n' :: before, after, ?_, ?_, ?_⟩
      · rw [joined, split]
        simp
      · rw [starts, byteLength_append, byteLength_cons]
        have newline : '\n'.utf8Size = 1 := rfl
        omega
      · have later : (placeLines start (first :: others))[number + 1 + 1]? =
            (placeLines (start + byteLength first + 1) others)[number + 1]? := rfl
        rw [later, ← stops, joined]
        cases (placeLines (start + byteLength first + 1) others)[number + 1]? with
        | some next => rfl
        | none =>
          have newline : '\n'.utf8Size = 1 := rfl
          simp only [byteLength_append, byteLength_cons]
          omega

theorem isLine_of_lt {number : Nat} (isThere : number < (LineIndex.ofSource source).lineCount) :
    IsLine (LineIndex.ofSource source) number ((LineIndex.ofSource source).line number) := by
  have found : (LineIndex.ofSource source).lines[number]? =
      some ((LineIndex.ofSource source).line number) := by
    rw [LineIndex.line, Array.getD_eq_getD_getElem?, Array.getElem?_eq_getElem isThere]
    rfl
  have listed : (placeLines 0 (splitLines source))[number]? =
      some ((LineIndex.ofSource source).line number) := by
    rw [← found, LineIndex.ofSource, List.getElem?_toArray]
  rcases placed_line listed with ⟨before, after, split, starts, stops⟩
  rw [intercalate_splitLines] at split stops
  constructor
  · exact found
  · exact ⟨before, after, split, by simpa using starts⟩
  · rw [← stops, Nat.zero_add]
    cases next : (placeLines 0 (splitLines source))[number + 1]? <;>
      simp only [lineStop, LineIndex.ofSource, List.getElem?_toArray, next]

namespace Line

/-- A carriage return that ends a line is cut off as the one byte that it is. -/
theorem stop_span (line : Line) : ∃ front back, line.text = front ++ back ∧
    line.span.stop = line.start + byteLength front := by
  have ends : line.span.stop = max (if line.text.getLast? = some '\r' then line.stop - 1
      else line.stop) line.start := rfl
  by_cases isReturn : line.text.getLast? = some '\r'
  · rcases List.getLast?_eq_some_iff.mp isReturn with ⟨front, textEq⟩
    refine ⟨front, ['\r'], textEq, ?_⟩
    have one : '\r'.utf8Size = 1 := rfl
    rw [ends, if_pos isReturn, Line.stop, textEq, byteLength_append]
    simp only [byteLength_cons, byteLength_nil]
    omega
  · refine ⟨line.text, [], by simp, ?_⟩
    rw [ends, if_neg isReturn, Line.stop]
    omega

theorem span_stop_le (line : Line) : line.span.stop ≤ line.stop := by
  rcases line.stop_span with ⟨front, back, textEq, stops⟩
  rw [stops, Line.stop, textEq, byteLength_append]
  omega

end Line

namespace IsLine

variable {index : LineIndex} {number : Nat} {line : Line} (isLine : IsLine index number line)

include isLine

theorem boundary_start : Boundary index.source line.start := by
  rcases isLine.spells with ⟨before, after, split, starts⟩
  exact ⟨before, line.text ++ after, by simpa using split, starts⟩

theorem boundary_stop : Boundary index.source line.stop := by
  rcases isLine.spells with ⟨before, after, split, starts⟩
  exact ⟨before ++ line.text, after, split, by rw [Line.stop, starts, byteLength_append]⟩

theorem boundary_span : Boundary index.source line.span.stop := by
  rcases isLine.spells with ⟨before, after, split, starts⟩
  rcases line.stop_span with ⟨front, back, textEq, stops⟩
  refine ⟨before ++ front, back ++ after, ?_, ?_⟩
  · rw [split, textEq]
    simp
  · rw [stops, starts, byteLength_append]

/-- The text of a line up to an offset in it is what stands between the two offsets. -/
theorem textOf_eq_textTo {offset : Nat} (after : line.span.start ≤ offset)
    (before : offset ≤ line.stop) :
    (Span.between line.span.start offset).textOf index.source = line.textTo offset := by
  change line.start ≤ offset at after
  change (Span.between line.start offset).textOf index.source = line.textTo offset
  rcases isLine.spells with ⟨front, rest, split, starts⟩
  have length : (Span.between line.start offset).length = offset - line.start := by
    simp only [Span.length, Span.between]
    omega
  rw [Span.textOf, length, split, List.append_assoc, Line.textTo]
  change takeBytes _ (dropBytes line.start _) = _
  rw [starts, dropBytes_append, ← starts]
  apply takeBytes_append_of_le
  rw [Line.stop] at before
  omega

/-- The range of a line that is cut out is its span. -/
theorem lineRange?_eq : lineRange? index number = some (line.span.start, line.span.stop) := by
  have ends : line.span.stop = max (if line.text.getLast? = some '\r' then line.stop - 1
      else line.stop) line.start := rfl
  have whole : line.textTo line.stop = line.text := by
    rw [Line.textTo, Line.stop, Nat.add_sub_cancel_left]
    simpa using takeBytes_append line.text []
  have starts : line.start ≤ line.stop := Nat.le_add_right _ _
  simp only [lineRange?, isLine.found, isLine.next, Option.bind_eq_bind, Option.bind_some]
  split
  · rename_i notEmpty
    have text := isLine.textOf_eq_textTo starts (Nat.le_refl _)
    rw [whole] at text
    rw [slice?_eq_some isLine.boundary_start isLine.boundary_stop starts]
    change (some ((Span.between line.span.start line.stop).textOf index.source)).bind _ = _
    rw [text, Option.bind_some, ends]
    congr 2
    split <;> omega
  · rename_i empty
    have none : line.text = [] := by
      apply byteLength_eq_zero_iff.mp
      simp only [Line.stop] at empty
      omega
    rw [ends, none]
    simp only [List.getLast?_nil, reduceCtorEq, if_false]
    congr 2
    omega

end IsLine

/-! ## Labels -/

/-- The offset up to which a label covers a line, at one of its ends. -/
def endOn (isEnd : Bool) (low high offset lineEnd : Nat) : Nat :=
  if isEnd then clamp low high offset else lineEnd

/-- It stays in the range of the line and at a boundary. -/
theorem boundary_endOn (isEnd : Bool) {low high offset lineEnd : Nat}
    (lows : Boundary source low) (highs : Boundary source high)
    (boundary : Boundary source offset) (ends : Boundary source lineEnd) (after : low ≤ lineEnd)
    (before : lineEnd ≤ high) :
    Boundary source (endOn isEnd low high offset lineEnd) ∧
      low ≤ endOn isEnd low high offset lineEnd ∧ endOn isEnd low high offset lineEnd ≤ high := by
  cases isEnd with
  | false => exact ⟨ends, after, before⟩
  | true =>
    refine ⟨lows.max (highs.min boundary), Nat.le_max_left _ _, ?_⟩
    simp only [endOn, clamp, if_true]
    omega

theorem endOn?_eq (isEnd : Bool) {low high : Nat} (ordered : low ≤ high) (offset lineEnd : Nat) :
    endOn? isEnd low high offset lineEnd = some (endOn isEnd low high offset lineEnd) := by
  cases isEnd with
  | false => rfl
  | true => exact if_pos ordered

theorem mark_eq (index : LineIndex) (extent : Extent) (number : Nat) :
    mark index extent number =
      let span := (index.line number).span
      let start := endOn (number = extent.first) span.start span.stop extent.start span.start
      ⟨start, endOn (number = extent.last) start span.stop extent.stop span.stop⟩ := by
  simp only [mark, endOn, decide_eq_true_eq]

/-- Each end of a span is a boundary of a source, or beyond its end. -/
structure Span.EndsOn (source : List Char) (span : Span) : Prop where
  start : Boundary source span.start ∨ byteLength source ≤ span.start
  stop : Boundary source span.stop ∨ byteLength source ≤ span.stop

theorem Span.On.endsOn {span : Span} (on : span.On source) : span.EndsOn source :=
  ⟨.inl on.start, .inl on.stop⟩

/-- An offset beyond the end is taken for the end. -/
theorem boundary_min {offset : Nat} (ends : Boundary source offset ∨ byteLength source ≤ offset) :
    Boundary source (min offset (byteLength source)) := by
  rcases ends with boundary | beyond
  · exact boundary.min (boundary_byteLength source)
  · rw [Nat.min_eq_right beyond]
    exact boundary_byteLength source

/-- An extent whose ends are boundaries of the source. -/
structure Snippet.Extent.On (source : List Char) (extent : Extent) : Prop where
  start : Boundary source extent.start
  stop : Boundary source extent.stop

theorem on_extent {span : Span} (ends : span.EndsOn source) :
    (extent (LineIndex.ofSource source) span).On source :=
  ⟨boundary_min ends.start, (boundary_min ends.stop).max (boundary_min ends.start)⟩

/-- A marked part of a line: in order, in the line, and between boundaries. -/
structure IsMark (index : LineIndex) (line : Line) (mark : Snippet.Mark) : Prop where
  start : Boundary index.source mark.start
  stop : Boundary index.source mark.stop
  after : line.span.start ≤ mark.start
  ordered : mark.start ≤ mark.stop
  before : mark.stop ≤ line.span.stop

section

variable {index : LineIndex} {number : Nat} {extent : Extent}
  (isLine : IsLine index number (index.line number)) (on : extent.On index.source)

include isLine on

theorem isMark_mark : IsMark index (index.line number) (mark index extent number) := by
  have lows : Boundary index.source (index.line number).span.start := isLine.boundary_start
  have highs := isLine.boundary_span
  have ordered := (index.line number).span.start_le_stop
  rcases boundary_endOn (number = extent.first) lows highs on.start lows (Nat.le_refl _) ordered
    with ⟨starts, after, before⟩
  rcases boundary_endOn (number = extent.last) starts highs on.stop highs before (Nat.le_refl _)
    with ⟨stops, order, within⟩
  rw [mark_eq]
  exact ⟨starts, stops, after, order, within⟩

theorem mark?_eq : mark? index extent number = some (mark index extent number) := by
  have ordered := (index.line number).span.start_le_stop
  have before := Nat.le_trans (isMark_mark isLine on).ordered (isMark_mark isLine on).before
  rw [mark_eq] at before ⊢
  rw [mark?, isLine.lineRange?_eq]
  simp only [Option.bind_eq_bind, Option.bind_some]
  rw [endOn?_eq _ ordered, Option.bind_some, endOn?_eq _ before, Option.bind_some]

/-- Under a line stand blanks for what comes before the label, and carets for it. -/
theorem markerRow?_eq (label : Label) (width : Nat) :
    markerRow? index extent label width number =
      some (markerRow index extent label width number) := by
  have marked := isMark_mark isLine on
  have lows : Boundary index.source (index.line number).span.start := isLine.boundary_start
  have before := slice?_eq_some lows marked.start marked.after
  have covered := slice?_eq_some marked.start marked.stop marked.ordered
  have inLine : (mark index extent number).start ≤ (index.line number).stop :=
    Nat.le_trans (Nat.le_trans marked.ordered marked.before) (index.line number).span_stop_le
  rw [isLine.textOf_eq_textTo marked.after inLine] at before
  rw [markerRow?, isLine.lineRange?_eq, mark?_eq isLine on]
  simp only [Option.bind_eq_bind, Option.bind_some]
  rw [before, covered]
  simp only [Option.bind_some]
  unfold markerRow caretCount padding
  dsimp only
  generalize (if extent.first = extent.last then _ else _) = carets
  split
  · rfl
  · rfl

theorem lineRows?_eq (label : Label) (width : Nat) :
    lineRows? index extent label width number =
      some (lineRows index extent label width number) := by
  have lows : Boundary index.source (index.line number).span.start := isLine.boundary_start
  have ordered := (index.line number).span.start_le_stop
  have content := slice?_eq_some lows isLine.boundary_span ordered
  rw [isLine.textOf_eq_textTo ordered (index.line number).span_stop_le] at content
  rw [lineRows?, isLine.lineRange?_eq]
  simp only [Option.bind_eq_bind, Option.bind_some]
  rw [content]
  simp only [Option.bind_some, markerRow?_eq isLine on]
  unfold lineRows
  dsimp only
  split
  · rfl
  · rfl

end

theorem lineCount_pos : 0 < (LineIndex.ofSource source).lineCount := by
  rcases List.exists_cons_of_ne_nil (splitLines_ne_nil source) with ⟨first, others, parts⟩
  simp [LineIndex.lineCount, LineIndex.ofSource, parts, placeLines]

/-- The lines around a label on the source are cut out of it. -/
theorem body?_eq {label : Label} (ends : label.span.EndsOn source) :
    body? source label = some (body source label) := by
  have rows {lines : List Nat} (areThere : ∀ line ∈ lines,
      line < (LineIndex.ofSource source).lineCount) (width : Nat) :
      lines.mapM (lineRows? (LineIndex.ofSource source)
        (extent (LineIndex.ofSource source) label.span) label width) =
      some (lines.map (lineRows (LineIndex.ofSource source)
        (extent (LineIndex.ofSource source) label.span) label width)) := by
    induction lines with
    | nil => rfl
    | cons line others ih =>
      rcases List.forall_mem_cons.mp areThere with ⟨isThere, later⟩
      have onExtent : (extent (LineIndex.ofSource source) label.span).On
          (LineIndex.ofSource source).source := on_extent ends
      rw [List.mapM_cons, lineRows?_eq (isLine_of_lt isThere) onExtent, ih later]
      rfl
  unfold body? body
  dsimp only
  rw [rows]
  · rfl
  · intro line isShown
    have some : 0 < (LineIndex.ofSource source).lineCount := lineCount_pos
    rw [List.mem_range'_1] at isShown
    omega

/-- The report by slicing of a diagnostic that points into the source is its report. -/
theorem report?_eq {diagnostic : Diagnostic}
    (ends : ∀ label ∈ diagnostic.primaryLabel?, label.span.EndsOn source) :
    diagnostic.report? source = some (diagnostic.report source) := by
  unfold Diagnostic.report? Diagnostic.report
  cases isPrimary : diagnostic.primaryLabel? with
  | none => rfl
  | some label =>
    dsimp only
    rw [body?_eq (ends label isPrimary)]
    rfl

end TemplateLang
