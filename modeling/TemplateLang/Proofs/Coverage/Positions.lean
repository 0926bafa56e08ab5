import TemplateLang.Source.Lines

/-!
# Lines and columns

The line and the column of an offset are found by a search through the lines of the source.
They are what one gets by counting along the text before the offset: a newline begins a line,
every other character takes a column.
-/

namespace TemplateLang

namespace Position

/-- The position after one more character. -/
def advance (position : Position) (c : Char) : Position :=
  if c = '\n' then ⟨position.line + 1, 1⟩ else ⟨position.line, position.column + 1⟩

/-- The position after a text that a source begins with. -/
def after (text : List Char) : Position :=
  text.foldl advance ⟨1, 1⟩

end Position

/-! ## Lines one after the other -/

/-- A cut past the end takes the whole text. -/
theorem takeBytes_min (limit : Nat) (text : List Char) :
    takeBytes (min limit (byteLength text)) text = takeBytes limit text := by
  induction text generalizing limit with
  | nil => rfl
  | cons c rest ih =>
    have sizePositive := c.utf8Size_pos
    rw [byteLength_cons, takeBytes, takeBytes]
    by_cases none : limit = 0
    · rw [if_pos none, if_pos (by omega)]
    · have left : min limit (c.utf8Size + byteLength rest) - c.utf8Size =
          min (limit - c.utf8Size) (byteLength rest) := by
        omega
      rw [if_neg none, if_neg (by omega), left, ih]

theorem start_of_mem_placeLines {parts : List (List Char)} {start : Nat} {line : Line}
    (isIn : line ∈ placeLines start parts) : start ≤ line.start := by
  induction parts generalizing start with
  | nil => exact absurd isIn List.not_mem_nil
  | cons first others ih =>
    rcases List.mem_cons.mp isIn with rfl | later
    · exact Nat.le_refl _
    · have := ih later
      omega

/-- There is one line more than newlines. -/
theorem length_splitLines (text : List Char) : (splitLines text).length = text.count '\n' + 1 := by
  induction text with
  | nil => rfl
  | cons c rest ih =>
    by_cases newline : c = '\n'
    · subst newline
      rw [splitLines_newline, List.length_cons, ih, List.count_cons_self]
    · rcases List.exists_cons_of_ne_nil (splitLines_ne_nil rest) with ⟨first, others, parts⟩
      rw [parts] at ih
      rw [splitLines_cons newline parts, List.count_cons_of_ne newline, ← ih]
      rfl

theorem length_placeLines (start : Nat) (parts : List (List Char)) :
    (placeLines start parts).length = parts.length := by
  induction parts generalizing start with
  | nil => rfl
  | cons first others ih => simp [placeLines, ih]

/-- A line starts at or before an offset if no more lines are before it than newlines are before
the offset. -/
theorem start_le_iff {text : List Char} {start number : Nat} {line : Line}
    (found : (placeLines start (splitLines text))[number]? = some line) (offset : Nat) :
    line.start ≤ start + offset ↔ number ≤ (takeBytes offset text).count '\n' := by
  induction text generalizing start offset number with
  | nil =>
    cases number with
    | zero =>
      cases found
      exact iff_of_true (Nat.le_add_right _ _) (Nat.zero_le _)
    | succ number => simp [placeLines] at found
  | cons c rest ih =>
    rcases List.exists_cons_of_ne_nil (splitLines_ne_nil rest) with ⟨first, others, parts⟩
    by_cases newline : c = '\n'
    · subst newline
      rw [splitLines_newline, placeLines] at found
      cases number with
      | zero =>
        cases found
        exact iff_of_true (Nat.le_add_right _ _) (Nat.zero_le _)
      | succ number =>
        rw [List.getElem?_cons_succ] at found
        cases offset with
        | zero =>
          have := start_of_mem_placeLines (List.mem_of_getElem? found)
          apply iff_of_false
          · simp only [byteLength_nil] at this
            omega
          · simp [takeBytes]
        | succ offset =>
          have later := ih found offset
          have one : '\n'.utf8Size = 1 := rfl
          rw [takeBytes, if_neg (Nat.succ_ne_zero offset), List.count_cons_self, one,
            Nat.add_sub_cancel, Nat.succ_le_succ_iff, ← later]
          simp only [byteLength_nil]
          omega
    · rw [splitLines_cons newline parts] at found
      cases number with
      | zero =>
        cases found
        exact iff_of_true (Nat.le_add_right _ _) (Nat.zero_le _)
      | succ number =>
        -- The line is not the first one of the rest either, so that the character is before it.
        have foundLater : (placeLines (start + c.utf8Size) (splitLines rest))[number + 1]? =
            some line := by
          rw [parts]
          simpa [placeLines, Nat.add_assoc] using found
        have startsLater : start + byteLength (c :: first) + 1 ≤ line.start :=
          start_of_mem_placeLines (List.mem_of_getElem? found)
        have later := ih foundLater (offset - c.utf8Size)
        rw [byteLength_cons] at startsLater
        rw [takeBytes]
        split
        · apply iff_of_false
          · omega
          · simp
        · rw [List.count_cons_of_ne newline, ← later]
          omega

/-- After a text the line is the one that the newlines in it count to.  `line` and `column`
count from any position, which the text goes on from. -/
theorem placed_after (before after : List Char) (start line column : Nat) :
    ∃ found, (placeLines start (splitLines (before ++ after)))[before.count '\n']? = some found ∧
      before.foldl Position.advance ⟨line, column⟩ =
        ⟨line + before.count '\n', (found.textTo (start + byteLength before)).length +
          if before.count '\n' = 0 then column else 1⟩ := by
  induction before generalizing start line column with
  | nil =>
    rcases List.exists_cons_of_ne_nil (splitLines_ne_nil after) with ⟨first, others, parts⟩
    refine ⟨⟨start, first⟩, ?_, ?_⟩
    · simp [parts, placeLines]
    · have none : takeBytes 0 first = [] := by
        cases first <;> rfl
      simp [Line.textTo, none]
  | cons c before ih =>
    by_cases newline : c = '\n'
    · subst newline
      have one : '\n'.utf8Size = 1 := rfl
      rcases ih (start + 1) (line + 1) 1 with ⟨found, isFound, counted⟩
      refine ⟨found, ?_, ?_⟩
      · simpa [placeLines] using isFound
      · have offsetEq : start + byteLength ('\n' :: before) = start + 1 + byteLength before := by
          simp only [byteLength_cons]
          omega
        rw [List.foldl_cons, offsetEq]
        change List.foldl Position.advance ⟨line + 1, 1⟩ before = _
        rw [counted, List.count_cons_self]
        simp only [ite_self, Nat.succ_ne_zero, if_false, Position.mk.injEq, and_true]
        omega
    · rcases List.exists_cons_of_ne_nil (splitLines_ne_nil (before ++ after)) with
        ⟨first, others, parts⟩
      have offsetEq : start + byteLength (c :: before) =
          start + c.utf8Size + byteLength before := by
        simp only [byteLength_cons]
        omega
      have advanced : Position.advance ⟨line, column⟩ c = ⟨line, column + 1⟩ := if_neg newline
      have lines : placeLines start (splitLines (c :: before ++ after)) =
          ⟨start, c :: first⟩ :: placeLines (start + c.utf8Size + byteLength first + 1) others := by
        simp [splitLines_cons newline parts, placeLines, Nat.add_assoc]
      rcases ih (start + c.utf8Size) line (column + 1) with ⟨found, isFound, counted⟩
      rw [parts] at isFound
      rw [lines, offsetEq, List.count_cons_of_ne newline, List.foldl_cons, advanced,
        counted]
      cases count : before.count '\n' with
      | zero =>
        -- The character is on the same line as what follows it.
        rw [count] at isFound
        rcases Option.some.inj isFound with rfl
        have sizePositive := c.utf8Size_pos
        refine ⟨⟨start, c :: first⟩, rfl, ?_⟩
        have taken : takeBytes (start + c.utf8Size + byteLength before - start) (c :: first) =
            c :: takeBytes (start + c.utf8Size + byteLength before - (start + c.utf8Size))
              first := by
          rw [takeBytes, if_neg (by omega)]
          congr 2
          omega
        simp only [Line.textTo, taken, List.length_cons, if_true, Position.mk.injEq, true_and]
        omega
      | succ number =>
        rw [count] at isFound
        exact ⟨found, isFound, rfl⟩

namespace LineIndex

/-! ## The search -/

/-- The search finds the last line that starts at or before an offset. -/
theorem search_eq {index : LineIndex} {offset number low high : Nat} (lows : low ≤ number)
    (highs : number < high)
    (splits : ∀ other, other < high → ((index.line other).start ≤ offset ↔ other ≤ number)) :
    index.search offset low high = number := by
  fun_induction index.search offset low high with
  | case1 low high wide middle starts ih =>
    exact ih ((splits middle (by omega)).mp starts) highs splits
  | case2 low high wide middle starts ih =>
    have below : number < middle := by
      rw [splits middle (by omega)] at starts
      omega
    exact ih lows below fun other isBelow => splits other (by omega)
  | case3 low high narrow => omega

variable {source before after : List Char}

theorem lineCount_eq (source : List Char) :
    (ofSource source).lineCount = source.count '\n' + 1 := by
  rw [← length_splitLines, ← length_placeLines 0]
  exact List.size_toArray

theorem line_eq_getElem {number : Nat}
    (isThere : number < (placeLines 0 (splitLines source)).length) :
    (ofSource source).line number = (placeLines 0 (splitLines source))[number] := by
  simp [line, ofSource, Array.getD, isThere]

/-- The lines that start at or before an offset are those up to the newlines before it. -/
theorem start_line_le_iff {number : Nat} (isThere : number < (ofSource source).lineCount)
    (offset : Nat) :
    ((ofSource source).line number).start ≤ offset ↔
      number ≤ (takeBytes offset source).count '\n' := by
  rw [lineCount_eq, ← length_splitLines, ← length_placeLines 0] at isThere
  have starts := start_le_iff (List.getElem?_eq_getElem isThere) offset
  rw [line_eq_getElem isThere, ← starts, Nat.zero_add]

/-- The line of an offset is counted by the newlines before it. -/
theorem lineOf_eq (source : List Char) (offset : Nat) :
    (ofSource source).lineOf offset = (takeBytes offset source).count '\n' := by
  have size : (ofSource source).size = byteLength source := rfl
  rw [lineOf, size, ← takeBytes_min]
  apply search_eq (Nat.zero_le _)
  · rw [lineCount_eq, Nat.lt_succ_iff]
    have split := takeBytes_append_dropBytes (min offset (byteLength source)) source
    have count := congrArg (List.count '\n') split
    rw [List.count_append] at count
    omega
  · intro other isThere
    exact start_line_le_iff isThere _

/-- The position of an offset is counted along the text before it. -/
theorem position_eq (split : source = before ++ after) :
    (ofSource source).position (byteLength before) = Position.after before := by
  rcases placed_after before after 0 1 1 with ⟨found, isFound, counted⟩
  rw [← split] at isFound
  rw [Nat.zero_add] at counted
  rcases List.getElem?_eq_some_iff.mp isFound with ⟨isThere, foundEq⟩
  have within : min (byteLength before) (ofSource source).size = byteLength before := by
    apply Nat.min_eq_left
    simp [ofSource, split]
  have number : (ofSource source).lineOf (byteLength before) = before.count '\n' := by
    rw [lineOf_eq, split, takeBytes_append]
  rw [position, within, number,
    line_eq_getElem isThere, foundEq, Position.after, counted, ite_self, Nat.add_comm 1]

/-- The column after a newline is counted from it. -/
example : (ofSource "a\nbc".toList).position 3 = ⟨2, 2⟩ := by
  exact position_eq (show "a\nbc".toList = "a\nb".toList ++ ['c'] from rfl)

end LineIndex

end TemplateLang
