import TemplateLang.Proofs.Separation.Pieces

/-!
# Pipes are nested calls

A value that is piped through segments is the first argument of the call of the first one,
which is the first argument of the call of the second one, and so on.  The arguments that a
segment has in parentheses come before those with blanks before them.  Each part is the tree
that its text has on its own.
-/

namespace TemplateLang

/-! ## Segments -/

/-- A segment of a pipe: what is called, the arguments in parentheses right after it and those
with blanks before them, and the span of the segment without the latter. -/
structure Segment where
  callee : Expr
  listed : List Expr
  extra : List Expr
  span : Span

/-- The call of a segment on the value that is piped into it. -/
def Segment.call (segment : Segment) (value : Expr) : Expr :=
  .call segment.callee (value :: (segment.listed ++ segment.extra)) true
    (Note.at (Span.between value.span.start
      ((segment.extra.getLast?.map Expr.span).getD segment.span).stop))

/-- A value piped through segments. -/
def pipedThrough (value : Expr) (segments : List Segment) : Expr :=
  segments.foldl (fun value segment => segment.call value) value

/-- A variable, or a member of something. -/
def Expr.isPath : Expr → Bool
  | .identifier _ _ | .field _ _ _ _ | .item _ _ _ => true
  | _ => false

/-- A text of nothing but blanks. -/
def AllBlank (text : List Char) : Prop :=
  ∀ c ∈ text, Unicode.isBlank c = true

/-! ## Their texts

Each text stands at a byte of a longer one. -/

open Grammar Cursor

/-- Items with commas between, up to and with the closing parenthesis.  A comma may stand
before it. -/
inductive ListedText : Nat → List Char → List Expr → Prop where
  | closed {start : Nat} {blanks : List Char} (blank : AllBlank blanks) :
      ListedText start (blanks ++ [')']) []
  | last {start : Nat} {text : List Char} {item : Expr}
      (alone : ReadsAlone conditional text item) :
      ListedText start (text ++ [')']) [item.shift start]
  | more {start : Nat} {text rest : List Char} {item : Expr} {items : List Expr}
      (alone : ReadsAlone conditional text item)
      (others : ListedText (start + byteLength (text ++ [','])) rest items) :
      ListedText start (text ++ [','] ++ rest) (item.shift start :: items)

/-- Arguments with blanks before them, and blanks at the end. -/
inductive SpacedText : Nat → List Char → List Expr → Prop where
  | blanks {start : Nat} {blanks : List Char} (blank : AllBlank blanks) :
      SpacedText start blanks []
  | more {start : Nat} {c : Char} {text rest : List Char} {argument : Expr}
      {arguments : List Expr} (isBlank : Unicode.isBlank c = true)
      (alone : ReadsAlone unary text argument)
      (others : SpacedText (start + byteLength ([c] ++ text)) rest arguments) :
      SpacedText start ([c] ++ text ++ rest)
        (argument.shift (start + byteLength [c]) :: arguments)

/-- What is called, with or without arguments in parentheses right after it. -/
inductive CalledText (start : Nat) : List Char → Expr → List Expr → Span → Prop where
  | bare {text : List Char} {callee : Expr} (alone : ReadsAlone suffixed text callee)
      (isPath : callee.isPath = true) :
      CalledText start text (callee.shift start) [] (callee.shift start).span
  | listed {text list : List Char} {callee : Expr} {items : List Expr}
      (alone : ReadsAlone suffixed text callee) (isPath : callee.isPath = true)
      (content : ListedText (start + byteLength (text ++ ['('])) list items) :
      CalledText start (text ++ ['('] ++ list) (callee.shift start) items
        (Span.between (callee.shift start).span.start
          (start + byteLength (text ++ ['('] ++ list)))

/-- Segments, each behind a bar. -/
inductive PipeText : Nat → List Char → List Segment → Prop where
  | nil {start : Nat} : PipeText start [] []
  | cons {start : Nat} {blanks called spaced rest : List Char} {segment : Segment}
      {segments : List Segment} (blank : AllBlank blanks)
      (isCalled : CalledText (start + byteLength (['|'] ++ blanks)) called segment.callee
        segment.listed segment.span)
      (isSpaced : SpacedText (start + byteLength (['|'] ++ blanks ++ called)) spaced
        segment.extra)
      (others : PipeText (start + byteLength (['|'] ++ blanks ++ called ++ spaced)) rest
        segments) :
      PipeText start (['|'] ++ blanks ++ called ++ spaced ++ rest) (segment :: segments)

/-! ## Places -/

variable {start : Nat} {text : List Char} {cursor stop : Cursor}

theorem AllBlank.between (blank : AllBlank text) (crosses : cursor.Crosses text stop) :
    Between cursor [] stop := by
  rcases crosses with ⟨restEq, rfl⟩
  apply between_blanks
  rw [restEq, List.take_left]
  exact blank

/-- The blanks up to a place that is not blank are skipped. -/
theorem AllBlank.skipBlanks (blank : AllBlank text) (crosses : cursor.Crosses text stop)
    (settled : stop.Settled) : cursor.skipBlanks = stop :=
  ((blank.between crosses).eq_skipBlanks settled).symm

namespace Grammar

variable {setting : Setting}

/-- An argument begins where an operand does. -/
theorem StartsOperand.atArgument (starts : StartsOperand setting text)
    (standard : setting.tags = Delimiters.standard) : atArgument setting text = true := by
  unfold Grammar.atArgument
  rw [starts.not_closing standard]
  cases starts with
  | @primary c rest textEq starts =>
    subst textEq
    simp only [startsPrimary, Bool.or_eq_true, List.contains_eq_mem, List.mem_cons,
      List.not_mem_nil, or_false, decide_eq_true_eq] at starts
    rcases starts with starts | rfl | rfl | rfl | rfl
    · simp [starts]
    all_goals rfl
  | point textEq isDigit =>
    subst textEq
    simp [isDigit]
  | update starts =>
    cases updateOp?_eq_some_iff.mp starts with
    | increment textEq | decrement textEq => rw [textEq]; rfl
  | operator starts =>
    cases unaryOp?_eq_some_iff.mp starts with
    | plus textEq | minus textEq | complement textEq => rw [textEq]; rfl
    | negate textEq notEqual =>
      rw [textEq]
      simpa [isWordStart] using notEqual

/-- No bar begins an operand. -/
theorem StartsOperand.not_bar {rest : List Char} (starts : StartsOperand setting text) :
    text ≠ '|' :: rest := by
  rintro rfl
  cases starts with
  | primary textEq starts =>
    rcases (List.cons.inj textEq).1 with rfl
    exact absurd starts (by decide)
  | point textEq => simp at textEq
  | update starts => simp [updateOp?] at starts
  | operator starts => simp [unaryOp?] at starts

/-- An item is derived from behind the blanks before it up to the comma or the parenthesis
after it. -/
theorem ReadsAlone.item_placed {item : Expr} {c : Char} {next : Cursor}
    (alone : ReadsAlone conditional text item) (crosses : cursor.Crosses (text ++ [c]) next)
    (isEnd : c = ',' ∨ c = ')') :
    ∃ middle, middle.isAt [c] = true ∧ middle.skip 1 = next ∧
      cursor.skipBlanks.isAt [')'] = false ∧
      Derives (Setting.initial Delimiters.standard) (.conditional (item.shift cursor.offset))
        cursor.skipBlanks middle := by
  rcases crosses.split with ⟨middle, passed, ending⟩
  rcases ending.isAt with ⟨ends, rfl⟩
  rcases isAt_singleton_iff.mp ends with ⟨rest, restEq⟩
  have settled : middle.Settled := by
    rcases isEnd with rfl | rfl <;> exact settled_of_isAt ends (by decide) (by decide)
  have breaks : middle.Breaks := by
    rcases isEnd with rfl | rfl <;> exact breaks_of_char restEq (by decide) (by decide)
  have done : EndsCommand (Setting.initial Delimiters.standard) middle := by
    rcases isEnd with rfl | rfl <;> exact endsCommand_of_char restEq (by decide)
  have derived := alone.conditional_placed passed breaks (settled.skipBlanks.symm ▸ settled)
    (settled.skipBlanks.symm ▸ done.toEndsConditional)
  rw [settled.skipBlanks] at derived
  rcases derived.behind_blanks rfl rfl (Expr.comments_shift_of_nil alone.1 _) with
    ⟨-, starts, derived⟩
  exact ⟨middle, ends, rfl, starts.notEnding ')' (by simp), derived⟩

/-- A bar is a pipe where an operand begins behind the blanks after it. -/
theorem atPipe_of_operand (standard : setting.tags = Delimiters.standard)
    (isBar : cursor.isAt ['|'] = true)
    (starts : StartsOperand setting (cursor.skip 1).skipBlanks.rest) :
    atPipe setting cursor.rest = true := by
  rcases isAt_singleton_iff.mp isBar with ⟨rest, restEq⟩
  have behind : (cursor.skip 1).rest = rest := by simp [restEq]
  have noClosing : setting.atClosing ('|' :: rest) = false :=
    atClosing_eq_false standard (by decide) fun isMinus => absurd isMinus (by decide)
  have noBar : rest.head? ≠ some '|' := by
    intro isBar
    rcases List.head?_eq_some_iff.mp isBar with ⟨more, rfl⟩
    have settled : (cursor.skip 1).Settled := settled_of_rest behind (by decide) (by decide)
    rw [settled.skipBlanks] at starts
    exact starts.not_bar behind
  rw [restEq, atPipe, noClosing]
  simpa using noBar

end Grammar

/-! ## Their derivations -/

theorem ListedText.derives {list : List Char} {items : List Expr}
    (listed : ListedText start list items) (here : cursor.offset = start)
    (crosses : cursor.Crosses list stop) :
    Derives (Setting.initial Delimiters.standard) (.items ')' items) cursor stop := by
  induction listed generalizing cursor with
  | closed blank =>
    rcases crosses.split with ⟨middle, blanks, closing⟩
    rcases closing.isAt with ⟨closes, rfl⟩
    have same := blank.skipBlanks blanks (settled_of_isAt closes (by decide) (by decide))
    rw [← same] at closes ⊢
    exact .itemsEnd closes
  | last alone =>
    subst here
    rcases alone.item_placed crosses (.inr rfl) with ⟨middle, closes, rfl, notYet, derived⟩
    exact .itemsLast notYet derived (isAt_ne closes (by decide)) closes
  | more alone _ ih =>
    subst here
    rcases crosses.split with ⟨after, front, others⟩
    have later := ih front.offset_eq others
    rcases alone.item_placed front (.inl rfl) with ⟨middle, comma, rfl, notYet, derived⟩
    exact .itemsMore notYet derived comma later

/-- Where the segments of a pipe end: at the next one or at the end of the text. -/
def AtSegment (cursor : Cursor) : Prop :=
  cursor.rest = [] ∨ atPipe (Setting.initial Delimiters.standard) cursor.rest = true

theorem AtSegment.settled (atSegment : AtSegment cursor) : cursor.Settled := by
  rcases atSegment with atEnd | follows
  · simp [Settled, SettledText, atEnd, Literal.commentOpening]
  · obtain ⟨rest, restEq, -⟩ := atPipe_iff.mp follows
    exact settled_of_rest restEq (by decide) (by decide)

theorem AtSegment.breaks (atSegment : AtSegment cursor) : cursor.Breaks := by
  rcases atSegment with atEnd | follows
  · exact breaks_of_nil atEnd
  · obtain ⟨rest, restEq, -⟩ := atPipe_iff.mp follows
    exact breaks_of_char restEq (by decide) (by decide)

theorem AtSegment.endsCommand (atSegment : AtSegment cursor) :
    EndsCommand (Setting.initial Delimiters.standard) cursor := by
  rcases atSegment with atEnd | follows
  · exact endsCommand_of_nil atEnd
  · exact endsCommand_of_pipe follows

theorem SpacedText.derives {spaced : List Char} {arguments : List Expr}
    (isSpaced : SpacedText start spaced arguments) (here : cursor.offset = start)
    (crosses : cursor.Crosses spaced stop) (ends : AtSegment stop) :
    cursor.Breaks ∧ cursor.skipBlanks.Settled ∧
      Derives (Setting.initial Delimiters.standard) (.arguments arguments) cursor.skipBlanks
        stop := by
  induction isSpaced generalizing cursor with
  | @blanks _ blanks blank =>
    rw [blank.skipBlanks crosses ends.settled]
    refine ⟨?_, ends.settled, .noArgument ends.endsCommand.noArgument⟩
    cases blanks with
    | nil =>
      rcases crosses with ⟨-, rfl⟩
      exact ends.breaks
    | cons c blanks =>
      have isBlank := blank c List.mem_cons_self
      apply breaks_of_char crosses.1 (by simp [isSeparator, isBlank])
      rintro rfl
      exact absurd isBlank (by decide)
  | @more _ c text rest argument arguments isBlank alone _ ih =>
    subst here
    rcases crosses.split with ⟨middle, front, others⟩
    rcases ih front.offset_eq others with ⟨breaks, settled, later⟩
    rcases front.split with ⟨first, blank, passed⟩
    have restEq : cursor.rest = c :: first.rest := blank.1
    have same : cursor.skipBlanks = first.skipBlanks := by
      rw [skipBlanks_of_blank restEq isBlank, blank.isAt.2]
    have derived := alone.unary_placed passed breaks settled
    rcases derived.behind_blanks rfl rfl (Expr.comments_shift_of_nil alone.1 _) with
      ⟨settledFirst, starts, derived⟩
    rw [blank.offset_eq] at derived
    rw [same]
    refine ⟨breaks_of_char restEq (by simp [isSeparator, isBlank]) ?_, settledFirst,
      .argument (starts.atArgument rfl) derived later⟩
    rintro rfl
    exact absurd isBlank (by decide)

theorem Expr.note_of_comments {expr : Expr} (noComments : expr.comments = []) :
    expr.note = Note.at expr.span := by
  rcases expr.exists_comments_withNote with ⟨inside, commentsEq⟩
  have around := commentsEq expr.note
  rw [expr.withNote_note, noComments, Note.around, eq_comm, List.append_eq_nil_iff,
    List.append_eq_nil_iff] at around
  calc
    expr.note = ⟨expr.note.span, expr.note.leading, expr.note.trailing⟩ := rfl
    _ = Note.at expr.span := by rw [around.1.1, around.2]; rfl

/-- A segment is derived where it stands, as something that a value is piped into. -/
theorem CalledText.derives {called : List Char} {callee : Expr} {listed extra : List Expr}
    {span : Span} (isCalled : CalledText start called callee listed span)
    (here : cursor.offset = start) (crosses : cursor.Crosses called stop)
    (breaks : stop.Breaks) :
    StartsOperand (Setting.initial Delimiters.standard) cursor.rest ∧
      ∃ whole : Expr, Derives (Setting.initial Delimiters.standard) (.suffixed whole) cursor stop ∧
        whole.withNote ⟨whole.span, [], []⟩ = whole ∧
        ∀ value : Expr, value.pipeInto whole extra =
          (Segment.mk callee listed extra span).call value := by
  subst here
  have noSuffix (whole : Expr) :
      Derives (Setting.initial Delimiters.standard) (.suffixes whole whole) stop stop :=
    .noSuffix (breaks.not_isAt (.inl (by decide))) (breaks.not_isAt (.inl (by decide)))
      (breaks.not_isAt (.inr rfl))
  have spanEq (value whole : Expr) : Expr.spanWith value whole extra =
      Span.between value.span.start ((extra.getLast?.map Expr.span).getD whole.span).stop := by
    rw [Expr.spanWith]
    cases extra.getLast? <;> rfl
  cases isCalled with
  | @bare _ callee alone isPath =>
    rcases alone.suffixed_placed crosses breaks.separates with ⟨starts, derived⟩
    have noted := Expr.note_of_comments (Expr.comments_shift_of_nil alone.1 cursor.offset)
    refine ⟨starts, _, derived _ _ (noSuffix _), ?_, fun value => ?_⟩
    · rw [← Note.at, ← noted, Expr.withNote_note]
    · rw [Expr.pipeInto, spanEq]
      cases callee <;> first | rfl | simp [Expr.isPath] at isPath
  | @listed text list callee items alone isPath content =>
    rcases crosses.split with ⟨opened, front, inside⟩
    rcases front.split with ⟨middle, passed, opening⟩
    rcases opening.isAt with ⟨opens, rfl⟩
    rcases isAt_singleton_iff.mp opens with ⟨rest, restEq⟩
    have separates : Separates middle.rest := by
      intro c rest' same
      rcases List.cons.inj (restEq.symm.trans same) with ⟨rfl, -⟩
      decide
    rcases alone.suffixed_placed passed separates with ⟨starts, derived⟩
    have items := content.derives front.offset_eq inside
    refine ⟨starts, _, derived _ _ (.call opens items (noSuffix _)), rfl, fun value => ?_⟩
    rw [Expr.pipeInto, spanEq, ← crosses.offset_eq]
    rfl

theorem PipeText.derives {pipe : List Char} {segments : List Segment}
    (piped : PipeText start pipe segments) (here : cursor.offset = start)
    (crosses : cursor.Crosses pipe stop) (atEnd : stop.rest = []) (value : Expr) :
    AtSegment cursor ∧
      Derives (Setting.initial Delimiters.standard)
        (.pipes value (pipedThrough value segments)) cursor stop := by
  induction piped generalizing cursor value with
  | nil =>
    have same : stop = cursor := crosses.2.trans (skip_zero cursor)
    subst same
    exact ⟨.inl atEnd, .noPipe (by rw [atEnd]; rfl)⟩
  | @cons _ blanks called spaced rest segment segments blank isCalled isSpaced _ ih =>
    subst here
    rcases crosses.split with ⟨after, front, others⟩
    have later (value : Expr) := ih front.offset_eq others value
    rcases front.split with ⟨middle, front, spacedCrosses⟩
    rcases isSpaced.derives front.offset_eq spacedCrosses (later value).1 with
      ⟨breaks, settled, arguments⟩
    rcases front.split with ⟨first, front, calledCrosses⟩
    rcases isCalled.derives front.offset_eq calledCrosses breaks with
      ⟨starts, whole, derived, noted, call⟩
    rcases front.split with ⟨behind, bar, blanksCrosses⟩
    rcases bar.isAt with ⟨isBar, rfl⟩
    have settledFirst : first.Settled := settled_of_argument (starts.atArgument rfl)
    have follows : atPipe (Setting.initial Delimiters.standard) cursor.rest = true :=
      atPipe_of_operand rfl isBar (blank.skipBlanks blanksCrosses settledFirst ▸ starts)
    refine ⟨.inr follows, .pipe follows ((blank.between blanksCrosses).trivia settledFirst) derived
      ((between_skipBlanks middle).trivia settled) arguments ?_⟩
    rw [noted, call]
    exact (later _).2

/-! ## Their comments -/

theorem ListedText.noComments {list : List Char} {items : List Expr}
    (listed : ListedText start list items) : exprComments items = [] := by
  induction listed with
  | closed => rfl
  | last alone => rw [exprComments, Expr.comments_shift_of_nil alone.1]; rfl
  | more alone _ ih => rw [exprComments, Expr.comments_shift_of_nil alone.1, ih]; rfl

theorem SpacedText.noComments {spaced : List Char} {arguments : List Expr}
    (isSpaced : SpacedText start spaced arguments) : exprComments arguments = [] := by
  induction isSpaced with
  | blanks => rfl
  | more _ alone _ ih => rw [exprComments, Expr.comments_shift_of_nil alone.1, ih]; rfl

theorem CalledText.noComments {called : List Char} {callee : Expr} {listed : List Expr}
    {span : Span} (isCalled : CalledText start called callee listed span) :
    callee.comments = [] ∧ exprComments listed = [] := by
  cases isCalled with
  | bare alone => exact ⟨Expr.comments_shift_of_nil alone.1 _, rfl⟩
  | listed alone _ content =>
    exact ⟨Expr.comments_shift_of_nil alone.1 _, content.noComments⟩

theorem PipeText.noComments {pipe : List Char} {segments : List Segment}
    (piped : PipeText start pipe segments) {value : Expr} (noComments : value.comments = []) :
    (pipedThrough value segments).comments = [] := by
  induction piped generalizing value with
  | nil => exact noComments
  | cons _ isCalled isSpaced _ ih =>
    apply ih
    rcases isCalled.noComments with ⟨callee, listed⟩
    change (Expr.call _ (_ :: (_ ++ _)) true (Note.at _)).comments = []
    rw [Expr.comments, around_at, noComments, callee, exprComments_append, listed,
      isSpaced.noComments]
    rfl

/-! ## Whole pipes -/

/-- A value with segments after it, each of which is read on its own, is read as nested calls,
in a text of its own and in a tag. -/
theorem parse_piped {head pipe : List Char} {value : Expr} {segments : List Segment}
    (alone : ReadsAlone command head value)
    (piped : PipeText (byteLength head) pipe segments) :
    parseExpression (head ++ pipe) = .ok (pipedThrough value segments) ∧
      ∃ opening closing span,
        parse .standard (inTag (String.ofList (head ++ pipe))).toList =
          .ok ⟨[.tag opening (.expression ((pipedThrough value segments).shift 3)) closing
            span]⟩ ∧
        (opening.trims = false ∧ closing.trims = false) ∧
        opening.comments = [] ∧ closing.comments = [] := by
  have read : parseExpression (head ++ pipe) = .ok (pipedThrough value segments) := by
    rcases crosses_all (show (ofSource (head ++ pipe)).rest = head ++ pipe from rfl) with
      ⟨stop, whole, atEnd⟩
    rcases whole.split with ⟨middle, front, back⟩
    have here : middle.offset = byteLength head := front.offset_eq.trans (Nat.zero_add _)
    rcases piped.derives here back atEnd value with ⟨atSegment, pipes⟩
    have settled := atSegment.settled
    have first := alone.command_placed front atSegment.breaks
      (settled.skipBlanks.symm ▸ settled) (settled.skipBlanks.symm ▸ atSegment.endsCommand)
    rw [settled.skipBlanks] at first
    have startEq : (ofSource (head ++ pipe)).offset = 0 := rfl
    rw [startEq, Expr.shift_zero] at first
    refine parseExpression_eq_ok.mpr ⟨_, .pipeline first pipes, ?_⟩
    rw [skipBlanks, rest_skipWhile, atEnd]
    rfl
  refine ⟨read, parse_inTag ?_ (piped.noComments alone.1)⟩
  rw [String.toList_ofList]
  exact read

/-- A name at a byte. -/
def nameAt (start : Nat) (name : String) : Expr :=
  .identifier name (Note.at (Span.between start (start + name.utf8ByteSize)))

/-- The segments of `n | f(x) -y | g.h`. -/
def twoSegments : List Segment :=
  [⟨nameAt 4 "f", [nameAt 6 "x"], [.unary .minus (nameAt 10 "y") (Note.at (Span.between 9 11))],
      Span.between 4 8⟩,
    ⟨.field (nameAt 14 "g") (.name "h") (Span.between 16 17) (Note.at (Span.between 14 17)), [], [],
      Span.between 14 17⟩]

theorem pipeText_twoSegments : PipeText 2 "| f(x) -y | g.h".toList twoSegments := by
  have blank : AllBlank [' '] := by
    intro c isIn
    rcases List.mem_singleton.mp isIn with rfl
    decide
  have nothing : AllBlank [] := fun _ isIn => absurd isIn List.not_mem_nil
  have called : CalledText 4 "f(x)".toList (nameAt 4 "f") [nameAt 6 "x"] (Span.between 4 8) :=
    @CalledText.listed 4 ['f'] ['x', ')'] (nameAt 0 "f") _ ⟨rfl, _, rfl, rfl⟩ rfl
      (@ListedText.last 6 ['x'] (nameAt 0 "x") ⟨rfl, _, rfl, rfl⟩)
  have spaced : SpacedText 8 " -y ".toList
      [.unary .minus (nameAt 10 "y") (Note.at (Span.between 9 11))] :=
    @SpacedText.more 8 ' ' ['-', 'y', ' '] []
      (.unary .minus (nameAt 1 "y") (Note.at (Span.between 0 2))) [] (by decide)
      ⟨rfl, _, rfl, rfl⟩ (.blanks nothing)
  have member : CalledText 14 "g.h".toList _ [] _ :=
    @CalledText.bare 14 ['g', '.', 'h']
      (.field (nameAt 0 "g") (.name "h") (Span.between 2 3) (Note.at (Span.between 0 3)))
      ⟨rfl, _, rfl, rfl⟩ rfl
  have last := @PipeText.cons 12 [' '] ['g', '.', 'h'] [] [] ⟨_, _, [], _⟩ [] blank member
    (.blanks nothing) .nil
  exact @PipeText.cons 2 [' '] ['f', '(', 'x', ')'] [' ', '-', 'y', ' '] _ ⟨_, _, _, _⟩ _ blank
    called spaced last

theorem parse_piped_twice :
    ReadsAlone command "n ".toList (nameAt 0 "n") ∧
      PipeText (byteLength "n ".toList) "| f(x) -y | g.h".toList twoSegments ∧
      parseExpression "n | f(x) -y | g.h".toList =
        .ok (pipedThrough (nameAt 0 "n") twoSegments) := by
  have alone : ReadsAlone command "n ".toList (nameAt 0 "n") := ⟨rfl, _, rfl, rfl⟩
  exact ⟨alone, pipeText_twoSegments, (parse_piped alone pipeText_twoSegments).1⟩

end TemplateLang
