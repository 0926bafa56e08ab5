import TemplateLang.Proofs.Reading

/-!
# Texts between places

`Crosses` says that a given text lies between two cursors, and `Between` that only blanks
and comments do.  The reader of blanks and comments stops at the first place that is
`Settled`, at which neither begins.

Printed expressions are followed by a blank, a bracket or a comma, and perhaps comments.
`Stretch` is the form in which such a text is handed to the readers: first the text, then
the comments up to a settled place.  `Lies` adds the comments that were read before it.
-/

namespace TemplateLang

namespace Cursor

/-! ## A given text -/

/-- A text lies between two places. -/
def Crosses (start : Cursor) (text : List Char) (stop : Cursor) : Prop :=
  start.rest = text ++ stop.rest ∧ stop = start.skip text.length

variable {start middle stop : Cursor} {text front back : List Char}

/-- The text that is ahead is crossed. -/
theorem crosses_of_rest (restEq : start.rest = text ++ back) :
    start.Crosses text (start.skip text.length) := by
  refine ⟨?_, rfl⟩
  rw [rest_skip, restEq, List.drop_left]

/-- All of the text is crossed. -/
theorem crosses_all (restEq : start.rest = text) :
    ∃ stop, start.Crosses text stop ∧ stop.rest = [] := by
  have crosses : start.Crosses text _ := crosses_of_rest (restEq.trans (List.append_nil text).symm)
  refine ⟨_, crosses, ?_⟩
  rw [rest_skip, restEq, List.drop_length]

theorem Crosses.trans (first : start.Crosses front middle) (second : middle.Crosses back stop) :
    start.Crosses (front ++ back) stop := by
  obtain ⟨restEq, rfl⟩ := first
  obtain ⟨restEq', rfl⟩ := second
  constructor
  · rw [restEq, restEq', List.append_assoc]
  · rw [skip_skip, List.length_append]

/-- A text in two parts is crossed by way of the place between them. -/
theorem Crosses.split (crosses : start.Crosses (front ++ back) stop) :
    ∃ middle, start.Crosses front middle ∧ middle.Crosses back stop := by
  obtain ⟨restEq, rfl⟩ := crosses
  rw [List.append_assoc] at restEq
  have first := crosses_of_rest restEq
  refine ⟨start.skip front.length, first, ?_, ?_⟩
  · exact List.append_cancel_left (first.1.symm.trans restEq)
  · rw [skip_skip, List.length_append]

theorem Crosses.head {c : Char} (crosses : start.Crosses (c :: text) stop) :
    ∃ middle, start.Crosses [c] middle ∧ middle.Crosses text stop := by
  rw [← List.singleton_append] at crosses
  exact crosses.split

theorem Crosses.cons {c : Char} (crosses : start.Crosses (c :: text) stop) :
    start.isAt [c] = true ∧ (start.skip 1).Crosses text stop := by
  obtain ⟨middle, first, second⟩ := crosses.head
  obtain ⟨restEq, rfl⟩ := first
  exact ⟨isAt_singleton_iff.mpr ⟨_, restEq⟩, second⟩

/-- The part of a text that a property holds of is taken, if it fails right after. -/
theorem takeWhile_append {p : Char → Bool} (all : ∀ c ∈ front, p c = true)
    (ends : ∀ c rest, back = c :: rest → p c = false) :
    (front ++ back).takeWhile p = front := by
  rw [List.takeWhile_append_of_pos all]
  cases back with
  | nil => simp
  | cons c rest => simp [ends c rest rfl]

theorem crosses_takeWhile (cursor : Cursor) (p : Char → Bool) :
    cursor.Crosses (cursor.rest.takeWhile p) (cursor.skipWhile p) :=
  crosses_of_rest List.takeWhile_append_dropWhile.symm

theorem rest_skipWhile (cursor : Cursor) (p : Char → Bool) :
    (cursor.skipWhile p).rest = cursor.rest.dropWhile p := by
  have parts : cursor.rest.takeWhile p ++ cursor.rest.dropWhile p = cursor.rest :=
    List.takeWhile_append_dropWhile
  exact (congrArg (List.drop _) parts.symm).trans List.drop_left

/-! ## Blanks and comments -/

/-- Nothing but blanks and the given comments lies between two places. -/
inductive Between : Cursor → List Comment → Cursor → Prop where
  | here (cursor : Cursor) : Between cursor [] cursor
  | blank {cursor next : Cursor} {comments : List Comment} {c : Char} {rest : List Char}
      (starts : cursor.rest = c :: rest) (isBlank : Unicode.isBlank c = true)
      (others : Between (cursor.skip 1) comments next) : Between cursor comments next
  | comment {cursor middle next : Cursor} {comment : Comment} {comments : List Comment}
      (found : Literal.comment cursor = .found comment middle)
      (others : Between middle comments next) : Between cursor (comment :: comments) next

/-- A text that begins neither with a blank nor with a comment. -/
def SettledText (text : List Char) : Prop :=
  (∀ c rest, text = c :: rest → Unicode.isBlank c = false) ∧
    ¬ Literal.commentOpening <+: text

/-- Neither a blank nor a comment begins at a place. -/
def Settled (cursor : Cursor) : Prop :=
  SettledText cursor.rest

theorem Between.trans {before after : List Comment} (first : Between start before middle)
    (second : Between middle after stop) : Between start (before ++ after) stop := by
  induction first with
  | here => exact second
  | blank starts isBlank _ ih => exact .blank starts isBlank (ih second)
  | comment found _ ih => exact .comment found (ih second)

theorem between_blank (crosses : start.Crosses [' '] stop) : Between start [] stop := by
  obtain ⟨restEq, rfl⟩ := crosses
  exact .blank restEq (by decide) (.here _)

theorem settled_of_char {c : Char} {rest : List Char} (notBlank : Unicode.isBlank c = false)
    (noSlash : c ≠ '/') : SettledText (c :: rest) := by
  constructor
  · intro d rest' same
    obtain ⟨rfl, -⟩ := List.cons.inj same
    exact notBlank
  · rintro ⟨after, same⟩
    exact noSlash (List.cons.inj same).1.symm

theorem settled_of_rest {cursor : Cursor} {c : Char} {rest : List Char}
    (starts : cursor.rest = c :: rest) (notBlank : Unicode.isBlank c = false) (noSlash : c ≠ '/') :
    cursor.Settled := by
  unfold Settled
  rw [starts]
  exact settled_of_char notBlank noSlash

theorem settled_of_isAt {cursor : Cursor} {c : Char} (isAt : cursor.isAt [c] = true)
    (notBlank : Unicode.isBlank c = false) (noSlash : c ≠ '/') : cursor.Settled := by
  obtain ⟨rest, restEq⟩ := isAt_singleton_iff.mp isAt
  exact settled_of_rest restEq notBlank noSlash

theorem Settled.skipBlanks {cursor : Cursor} (settled : cursor.Settled) :
    cursor.skipBlanks = cursor := by
  have none : cursor.rest.takeWhile Unicode.isBlank = [] := by
    cases restEq : cursor.rest with
    | nil => rfl
    | cons c rest => simp [settled.1 c rest restEq]
  rw [Cursor.skipBlanks, skipWhile, none]
  exact skip_zero cursor

theorem Settled.no_comment {cursor : Cursor} (settled : cursor.Settled) :
    Literal.comment cursor = .absent := by
  rw [Literal.comment_eq_absent, Bool.eq_false_iff]
  intro opens
  exact settled.2 (isAt_iff.mp opens)

/-- Where no comment begins after blanks, none of both begins. -/
theorem settled_skipBlanks {cursor : Cursor}
    (noComment : Literal.comment cursor.skipBlanks = .absent) : cursor.skipBlanks.Settled := by
  constructor
  · intro c rest restEq
    have first := List.head?_dropWhile_not Unicode.isBlank cursor.rest
    rw [← rest_skipWhile, ← skipBlanks, restEq] at first
    simpa using first
  · rw [Literal.comment_eq_absent, Bool.eq_false_iff] at noComment
    exact fun opens => noComment (isAt_iff.mpr opens)

theorem skipBlanks_of_blank {cursor : Cursor} {c : Char} {rest : List Char}
    (starts : cursor.rest = c :: rest) (isBlank : Unicode.isBlank c = true) :
    cursor.skipBlanks = (cursor.skip 1).skipBlanks := by
  simp only [Cursor.skipBlanks, skipWhile, skip_skip, rest_skip, starts, List.takeWhile_cons,
    isBlank, if_true, List.length_cons, List.drop_succ_cons, List.drop_zero]
  congr 1
  omega

theorem skipBlanks_of_comment {cursor next : Cursor} {comment : Comment}
    (found : Literal.comment cursor = .found comment next) : cursor.skipBlanks = cursor := by
  obtain ⟨body, after, restEq, -⟩ := Literal.comment_eq_found.mp found
  have starts : cursor.rest = '/' :: ('*' :: (body ++ after)) := restEq
  have none : cursor.rest.takeWhile Unicode.isBlank = [] := by
    rw [starts]
    rfl
  rw [Cursor.skipBlanks, skipWhile, none]
  exact skip_zero cursor

/-- The comments up to a settled place are read, whatever was read before. -/
theorem Between.rounds {cursor next : Cursor} {comments : List Comment}
    (between : Between cursor comments next) (settled : next.Settled) (before : List Comment)
    (fuel : Nat) (enough : cursor.room < fuel) :
    Reading.rounds triviaRound fuel before cursor = .ok (before ++ comments, next) := by
  induction between generalizing before fuel with
  | here cursor =>
    rw [List.append_nil]
    refine Reading.rounds_of_done ?_ fuel enough
    rw [triviaRound_eq_done, settled.skipBlanks]
    exact ⟨settled.no_comment, rfl, rfl⟩
  | @blank cursor next comments c rest starts isBlank _ ih =>
    have passes : cursor.Passes (cursor.skip 1) := passes_skip (by simp [starts]) Nat.one_pos
    have shorter := passes.room_lt
    have after := ih settled before fuel (by omega)
    have same : triviaRound before cursor = triviaRound before (cursor.skip 1) := by
      unfold triviaRound
      rw [skipBlanks_of_blank starts isBlank]
    cases fuel with
    | zero => omega
    | succ fuel =>
      rw [Reading.rounds_succ] at after ⊢
      rw [same]
      exact after
  | @comment cursor middle next comment comments found _ ih =>
    have step : triviaRound before cursor = .ok (.again (before ++ [comment]), middle) := by
      rw [triviaRound_eq_again, skipBlanks_of_comment found]
      exact ⟨comment, found, rfl⟩
    refine Reading.rounds_of_again step (Literal.passes_of_comment found) ?_ fuel enough
    intro fuel' enough'
    have rest := ih settled (before ++ [comment]) fuel' enough'
    rwa [List.append_assoc] at rest

/-- Blanks and comments are read up to a settled place. -/
theorem Between.trivia {cursor next : Cursor} {comments : List Comment}
    (between : Between cursor comments next) (settled : next.Settled) :
    TemplateLang.trivia cursor = .ok (comments, next) :=
  between.rounds settled [] _ (Nat.lt_succ_self _)

theorem Between.skipBlanks {cursor next : Cursor} {comments : List Comment}
    (between : Between cursor comments next) (settled : next.Settled) :
    Between cursor.skipBlanks comments next := by
  induction between with
  | here cursor =>
    rw [settled.skipBlanks]
    exact .here cursor
  | blank starts isBlank _ ih =>
    rw [skipBlanks_of_blank starts isBlank]
    exact ih settled
  | comment found others =>
    rw [skipBlanks_of_comment found]
    exact .comment found others

/-- Where nothing but blanks lies before a settled place, that place is right after them. -/
theorem Between.eq_skipBlanks {cursor next : Cursor} (between : Between cursor [] next)
    (settled : next.Settled) : next = cursor.skipBlanks := by
  generalize noComments : ([] : List Comment) = comments at between
  induction between with
  | here cursor => exact settled.skipBlanks.symm
  | blank starts isBlank _ ih =>
    rw [skipBlanks_of_blank starts isBlank]
    exact ih settled noComments
  | comment => simp at noComments

theorem between_blanks {cursor : Cursor} {count : Nat}
    (blanks : ∀ c ∈ cursor.rest.take count, Unicode.isBlank c = true) :
    Between cursor [] (cursor.skip count) := by
  induction count generalizing cursor with
  | zero => exact skip_zero cursor ▸ .here cursor
  | succ count ih =>
    cases restEq : cursor.rest with
    | nil =>
      have stays : cursor.skip (count + 1) = cursor := by
        ext1 <;> simp [restEq]
      rw [stays]
      exact .here cursor
    | cons c rest =>
      rw [restEq, List.take_succ_cons] at blanks
      apply Between.blank restEq (blanks c List.mem_cons_self)
      rw [Nat.add_comm, ← skip_skip]
      apply ih
      intro d isIn
      rw [rest_skip, restEq] at isIn
      exact blanks d (List.mem_cons_of_mem c isIn)

theorem between_skipBlanks (cursor : Cursor) : Between cursor [] cursor.skipBlanks := by
  refine between_blanks fun c isIn => ?_
  rw [← List.prefix_iff_eq_take.mp (List.takeWhile_prefix _)] at isIn
  exact List.all_eq_true.mp List.all_takeWhile c isIn

/-- Blanks and comments are read exactly up to the first settled place. -/
theorem trivia_eq_ok {cursor next : Cursor} {comments : List Comment} :
    TemplateLang.trivia cursor = .ok (comments, next) ↔
      Between cursor comments next ∧ next.Settled := by
  constructor
  · intro read
    have general := Reading.loop_induction
      (motive := fun before cursor all next =>
        ∃ comments, all = before ++ comments ∧ Between cursor comments next ∧ next.Settled)
      ?_ ?_ read
    · rcases general with ⟨_, rfl, between⟩
      exact between
    · intro before cursor all next step
      rcases triviaRound_eq_done.mp step with ⟨noComment, rfl, rfl⟩
      exact ⟨[], by simp, between_skipBlanks cursor, settled_skipBlanks noComment⟩
    · intro before cursor before' cursor' all next step later
      rcases triviaRound_eq_again.mp step with ⟨comment, found, rfl⟩
      rcases later with ⟨comments, rfl, between, settled⟩
      exact ⟨comment :: comments, by simp,
        (between_skipBlanks cursor).trans (.comment found between), settled⟩
  · rintro ⟨between, settled⟩
    exact between.trivia settled

/-- Blanks before blanks and comments make no difference. -/
theorem trivia_skipBlanks {cursor next : Cursor} {comments : List Comment} :
    TemplateLang.trivia cursor.skipBlanks = .ok (comments, next) ↔
      TemplateLang.trivia cursor = .ok (comments, next) := by
  rw [trivia_eq_ok, trivia_eq_ok]
  constructor
  · rintro ⟨between, settled⟩
    exact ⟨(between_skipBlanks cursor).trans between, settled⟩
  · rintro ⟨between, settled⟩
    exact ⟨between.skipBlanks settled, settled⟩

theorem Settled.trivia {cursor : Cursor} (settled : cursor.Settled) :
    TemplateLang.trivia cursor = .ok ([], cursor) :=
  (Between.here cursor).trivia settled

/-! ## Texts with comments around -/

/-- What follows a printed expression. -/
def Ends (cursor : Cursor) : Prop :=
  ∃ c rest, cursor.rest = c :: rest ∧ (c = ' ' ∨ c = ')' ∨ c = ']' ∨ c = ',')

/-- A text stands at a place, and comments after it up to another place. -/
def Stretch (cursor : Cursor) (text : List Char) (after : List Comment) (next : Cursor) :
    Prop :=
  ∃ stop, cursor.Crosses text stop ∧ stop.Ends ∧ Between stop after next ∧ next.Settled

/-- A text lies between two places, with comments before and after it. -/
def Lies (cursor : Cursor) (before : List Comment) (text : List Char) (after : List Comment)
    (next : Cursor) : Prop :=
  ∃ start, TemplateLang.trivia cursor = .ok (before, start) ∧ start.Stretch text after next

variable {cursor next : Cursor} {after before : List Comment}

/-- A stretch goes on after a part of its text. -/
theorem Stretch.split (stretch : cursor.Stretch (front ++ back) after next) :
    ∃ middle, cursor.Crosses front middle ∧ middle.Stretch back after next := by
  obtain ⟨stop, crosses, ends, between, settled⟩ := stretch
  obtain ⟨middle, first, second⟩ := crosses.split
  exact ⟨middle, first, stop, second, ends, between, settled⟩

theorem Stretch.head {c : Char} (stretch : cursor.Stretch (c :: text) after next) :
    ∃ middle, cursor.Crosses [c] middle ∧ middle.Stretch text after next := by
  rw [← List.singleton_append] at stretch
  exact stretch.split

/-- A blank ends a text, and one that is settled begins after it. -/
theorem Crosses.stretch_blank (first : cursor.Crosses front middle)
    (blank : middle.Crosses [' '] next) (settled : next.Settled) :
    cursor.Stretch front [] next := by
  exact ⟨middle, first, ⟨' ', _, blank.1, .inl rfl⟩, between_blank blank, settled⟩

/-- A bracket or a comma ends a text. -/
theorem Crosses.stretch_closed {c : Char} (first : cursor.Crosses front middle)
    (closes : middle.isAt [c] = true) (closing : c = ')' ∨ c = ']' ∨ c = ',') :
    cursor.Stretch front [] middle := by
  obtain ⟨rest, restEq⟩ := isAt_singleton_iff.mp closes
  refine ⟨middle, first, ⟨c, rest, restEq, .inr closing⟩, .here middle, ?_⟩
  rcases closing with rfl | rfl | rfl <;> exact settled_of_rest restEq (by decide) (by decide)

theorem Stretch.lies (stretch : cursor.Stretch text after next) (settled : cursor.Settled) :
    cursor.Lies [] text after next :=
  ⟨cursor, settled.trivia, stretch⟩

end Cursor

end TemplateLang
