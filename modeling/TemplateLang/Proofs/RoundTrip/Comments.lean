import Mathlib.Data.List.DropRight
import TemplateLang.Print.Expression
import TemplateLang.Proofs.RoundTrip.Crossing

/-!
# Printed comments

A comment is printed with its marks and reads back as one that prints alike.  Its body is
trimmed if it is on one line, which is why the comment read may differ from the printed
one.  The comments before an expression stand with a blank after each, and the comments
after it with a blank before each.
-/

namespace TemplateLang

/-! ## Trimmed texts -/

namespace Text

theorem dropTrailing_eq (text : List Char) :
    dropTrailing text = text.rdropWhile Unicode.isBlank :=
  rfl

/-- What is trimmed does not begin with a blank. -/
theorem dropOuter_starts {text rest : List Char} {c : Char} (trimmed : dropOuter text = c :: rest) :
    Unicode.isBlank c = false := by
  have isPart : c :: rest <+: text.dropWhile Unicode.isBlank := by
    rw [← trimmed]
    exact List.rdropWhile_prefix _ _
  obtain ⟨after, parts⟩ := isPart
  have first := List.head?_dropWhile_not Unicode.isBlank text
  rw [← parts] at first
  simpa using first

/-- A text with a blank on both sides, or one blank for none. -/
def spaced : List Char → List Char
  | [] => [' ']
  | text => ' ' :: text ++ [' ']

/-- Trimming takes the blanks around a trimmed text and nothing else. -/
theorem dropOuter_spaced (text : List Char) :
    dropOuter (spaced (dropOuter text)) = dropOuter text := by
  cases trimmed : dropOuter text with
  | nil => decide
  | cons c rest =>
    have starts := dropOuter_starts trimmed
    have leading : dropLeading (' ' :: (c :: rest) ++ [' ']) = c :: rest ++ [' '] := by
      simp [dropLeading, show Unicode.isBlank ' ' = true by decide, starts]
    rw [spaced, dropOuter, leading, dropTrailing_eq, List.rdropWhile_concat_pos _ _ _ (by decide),
      ← trimmed]
    · exact List.rdropWhile_idempotent _ _
    · simp

theorem mem_of_mem_spaced {text : List Char} {c : Char} (isIn : c ∈ spaced text)
    (notBlank : c ≠ ' ') : c ∈ text := by
  cases text <;> simp_all [spaced]

theorem dropOuter_infix (text : List Char) : dropOuter text <:+: text :=
  (List.rdropWhile_prefix _ _).isInfix.trans (List.dropWhile_suffix _).isInfix

end Text

/-- A comment whose body does not close it early. -/
def Comment.Closed (comment : Comment) : Prop :=
  ¬ Literal.commentClosing <:+: comment.body.toList

namespace Print

open Cursor

/-! ## One comment -/

/-- The body that a comment is printed with. -/
def commentBody (comment : Comment) : List Char :=
  if comment.isMultiline then comment.body.toList
  else Text.spaced (Text.dropOuter comment.body.toList)

theorem toList_comment (comment : Comment) :
    (Print.comment comment).toList =
      Literal.commentOpening ++ commentBody comment ++ Literal.commentClosing := by
  unfold Print.comment commentBody
  split
  · simp [Literal.commentOpening, Literal.commentClosing]
  · cases Text.dropOuter comment.body.toList with
    | nil => rfl
    | cons c rest => simp [Text.spaced, Literal.commentOpening, Literal.commentClosing]

/-- Blanks around a text do not close a comment in it. -/
theorem not_infix_spaced {text : List Char} (closed : ¬ Literal.commentClosing <:+: text) :
    ¬ Literal.commentClosing <:+: Text.spaced text := by
  cases text with
  | nil => decide
  | cons c rest =>
    rintro ⟨front, back, parts⟩
    rw [Text.spaced] at parts
    · cases front with
      | nil => simp [Literal.commentClosing] at parts
      | cons d front =>
        simp only [List.cons_append, List.cons.injEq] at parts
        obtain ⟨-, parts⟩ := parts
        change front ++ Literal.commentClosing ++ back = (c :: rest) ++ [' '] at parts
        rcases List.eq_nil_or_concat back with rfl | ⟨back, e, rfl⟩
        · rw [List.append_nil] at parts
          have last := congrArg List.getLast? parts
          rw [List.getLast?_concat, List.getLast?_append] at last
          simp [Literal.commentClosing] at last
        · rw [List.concat_eq_append, ← List.append_assoc] at parts
          exact closed ⟨front, back, (List.append_inj' parts rfl).1⟩
    · simp

theorem closed_commentBody {comment : Comment} (closed : comment.Closed) :
    ¬ Literal.commentClosing <:+: commentBody comment := by
  unfold commentBody
  split
  · exact closed
  · exact not_infix_spaced fun isPart => closed (isPart.trans (Text.dropOuter_infix _))

/-- A text without the closing mark is cut right before one. -/
theorem cutBefore?_closing {text after : List Char}
    (closed : ¬ Literal.commentClosing <:+: text) :
    cutBefore? Literal.commentClosing (text ++ (Literal.commentClosing ++ after)) =
      some (text, Literal.commentClosing ++ after) := by
  rw [cutBefore?_eq_some_iff]
  refine ⟨rfl, List.prefix_append _ _, ?_⟩
  rintro front back rfl notEmpty ⟨rest, starts⟩
  obtain ⟨c, back, rfl⟩ := List.exists_cons_of_ne_nil notEmpty
  simp only [Literal.commentClosing, List.cons_append, List.nil_append, List.cons.injEq] at starts
  obtain ⟨rfl, starts⟩ := starts
  cases back with
  | nil => simp at starts
  | cons d back =>
    simp only [List.cons_append, List.cons.injEq] at starts
    obtain ⟨rfl, -⟩ := starts
    exact closed ⟨front, back, by simp [Literal.commentClosing]⟩

/-- The body that is printed is printed with itself. -/
theorem commentBody_commentBody (comment : Comment) (span : Span) :
    commentBody ⟨String.ofList (commentBody comment), span⟩ = commentBody comment := by
  have isMultiline_iff (body : List Char) :
      (Comment.mk (String.ofList body) span).isMultiline = true ↔ '\n' ∈ body := by
    simp [Comment.isMultiline]
  by_cases multiline : comment.isMultiline = true
  · have same : commentBody comment = comment.body.toList := if_pos multiline
    rw [same, commentBody, if_pos]
    · exact String.toList_ofList
    · rw [isMultiline_iff]
      simpa [Comment.isMultiline] using multiline
  · have same : commentBody comment = Text.spaced (Text.dropOuter comment.body.toList) :=
      if_neg multiline
    rw [same, commentBody, if_neg, String.toList_ofList, Text.dropOuter_spaced]
    rw [isMultiline_iff]
    intro isIn
    refine multiline ?_
    have inTrimmed := Text.mem_of_mem_spaced isIn (by decide)
    simpa [Comment.isMultiline] using (Text.dropOuter_infix _).mem inTrimmed

/-- A printed comment is read, and what is read prints alike. -/
theorem comment_reads {comment : Comment} {start stop : Cursor} (closed : comment.Closed)
    (crosses : start.Crosses (Print.comment comment).toList stop) :
    ∃ comment', Literal.comment start = .found comment' stop ∧
      Print.comment comment' = Print.comment comment := by
  obtain ⟨restEq, stopEq⟩ := crosses
  rw [toList_comment] at restEq stopEq
  have marks : (Literal.commentOpening ++ commentBody comment ++ Literal.commentClosing).length =
      2 + ((commentBody comment).length + 2) := by
    simp only [Literal.commentOpening, Literal.commentClosing, List.length_append,
      List.length_cons, List.length_nil]
    omega
  rw [marks] at stopEq
  refine ⟨⟨String.ofList (commentBody comment), start.spanTo stop⟩, ?_, ?_⟩
  · rw [Literal.comment_eq_found]
    refine ⟨commentBody comment, Literal.commentClosing ++ stop.rest, ?_, ?_, stopEq, rfl⟩
    · rw [restEq, List.append_assoc _ _ stop.rest]
    · exact cutBefore?_closing (closed_commentBody closed)
  · apply String.toList_injective
    rw [toList_comment, toList_comment, commentBody_commentBody]

/-! ## Comments around a text -/

/-- The text of comments before an expression. -/
def leading (comments : List Comment) : List Char :=
  comments.flatMap fun c => (comment c).toList ++ [' ']

/-- The text of comments after an expression. -/
def trailing (comments : List Comment) : List Char :=
  comments.flatMap fun c => ' ' :: (comment c).toList

@[simp]
theorem leading_nil : leading [] = [] :=
  rfl

@[simp]
theorem trailing_nil : trailing [] = [] :=
  rfl

@[simp]
theorem leading_append (first second : List Comment) :
    leading (first ++ second) = leading first ++ leading second := by
  simp [leading]

@[simp]
theorem trailing_append (first second : List Comment) :
    trailing (first ++ second) = trailing first ++ trailing second := by
  simp [trailing]

theorem leading_cons (first : Comment) (comments : List Comment) :
    leading (first :: comments) = (comment first).toList ++ ' ' :: leading comments := by
  simp [leading]

theorem trailing_cons (first : Comment) (comments : List Comment) :
    trailing (first :: comments) = ' ' :: ((comment first).toList ++ trailing comments) := by
  simp [trailing]

/-- The blanks between comments may be counted before or after each of them. -/
theorem trailing_blank (comments : List Comment) (text : List Char) :
    trailing comments ++ ' ' :: text = ' ' :: (leading comments ++ text) := by
  induction comments with
  | nil => rfl
  | cons c comments ih =>
    rw [trailing_cons, leading_cons, List.cons_append, List.append_assoc, ih]
    simp

theorem toList_intercalate_trailing (first : String) (comments : List Comment) :
    (" ".intercalate (first :: comments.map comment)).toList =
      first.toList ++ trailing comments := by
  induction comments generalizing first with
  | nil => simp
  | cons c comments ih =>
    rw [List.map_cons, String.intercalate_cons_cons, String.toList_append, ih, trailing_cons]
    simp

theorem toList_withComments (note : Note) (text : String) :
    (withComments note text).toList =
      leading note.leading ++ text.toList ++ trailing note.trailing := by
  unfold withComments
  induction note.leading with
  | nil => rw [List.map_nil, List.nil_append, toList_intercalate_trailing, leading_nil,
      List.nil_append]
  | cons c comments ih =>
    rw [List.map_cons, List.cons_append, String.intercalate_cons_of_ne_nil (by simp),
      String.toList_append, ih, leading_cons]
    simp

/-- Two lists of comments print alike. -/
def Alike (first second : List Comment) : Prop :=
  second.map comment = first.map comment

theorem Alike.refl (comments : List Comment) : Alike comments comments :=
  rfl

theorem leading_eq (comments : List Comment) :
    leading comments = (comments.map comment).flatMap fun text => text.toList ++ [' '] := by
  simp [leading, List.flatMap_map]

theorem trailing_eq (comments : List Comment) :
    trailing comments = (comments.map comment).flatMap fun text => ' ' :: text.toList := by
  simp [trailing, List.flatMap_map]

theorem Alike.leading_eq {first second : List Comment} (alike : Alike first second) :
    leading second = leading first := by
  rw [Print.leading_eq, Print.leading_eq, alike]

theorem Alike.trailing_eq {first second : List Comment} (alike : Alike first second) :
    trailing second = trailing first := by
  rw [Print.trailing_eq, Print.trailing_eq, alike]

theorem Alike.length_eq {first second : List Comment} (alike : Alike first second) :
    second.length = first.length := by
  simpa using congrArg List.length alike

end Print

namespace Cursor

open Print

/-! ## Reading them back -/

variable {start stop cursor next : Cursor} {comments after before : List Comment}
  {text front : List Char}

theorem between_trailing (closed : ∀ c ∈ comments, c.Closed)
    (crosses : start.Crosses (trailing comments) stop) :
    ∃ comments', Alike comments comments' ∧ Between start comments' stop := by
  induction comments generalizing start with
  | nil =>
    obtain ⟨-, rfl⟩ := crosses
    exact ⟨[], rfl, skip_zero start ▸ .here start⟩
  | cons c comments ih =>
    rw [trailing_cons] at crosses
    obtain ⟨afterBlank, blank, crosses⟩ := crosses.head
    obtain ⟨afterComment, first, others⟩ := crosses.split
    obtain ⟨c', found, same⟩ := comment_reads (closed c List.mem_cons_self) first
    obtain ⟨comments', alike, between⟩ :=
      ih (fun d isIn => closed d (List.mem_cons_of_mem c isIn)) others
    refine ⟨c' :: comments', ?_, (between_blank blank).trans (.comment found between)⟩
    rw [Alike, List.map_cons, List.map_cons, same, alike]

theorem between_leading (closed : ∀ c ∈ comments, c.Closed)
    (crosses : start.Crosses (leading comments) stop) :
    ∃ comments', Alike comments comments' ∧ Between start comments' stop := by
  induction comments generalizing start with
  | nil =>
    obtain ⟨-, rfl⟩ := crosses
    exact ⟨[], rfl, skip_zero start ▸ .here start⟩
  | cons c comments ih =>
    rw [leading_cons] at crosses
    obtain ⟨afterComment, first, crosses⟩ := crosses.split
    obtain ⟨afterBlank, blank, others⟩ := crosses.head
    obtain ⟨c', found, same⟩ := comment_reads (closed c List.mem_cons_self) first
    obtain ⟨comments', alike, between⟩ :=
      ih (fun d isIn => closed d (List.mem_cons_of_mem c isIn)) others
    refine ⟨c' :: comments', ?_, .comment found ((between_blank blank).trans between)⟩
    rw [Alike, List.map_cons, List.map_cons, same, alike]

/-- A text that is settled whatever follows it. -/
def Settles (text : List Char) : Prop :=
  ∀ more, SettledText (text ++ more)

theorem Settles.append (settles : Settles text) (more : List Char) : Settles (text ++ more) := by
  intro behind
  rw [List.append_assoc]
  exact settles _

theorem Settles.crossed (settles : Settles text) (crosses : start.Crosses text stop) :
    start.Settled := by
  unfold Settled
  rw [crosses.1]
  exact settles _

theorem Settles.settled (settles : Settles text) (stretch : start.Stretch text after next) :
    start.Settled := by
  obtain ⟨stop, crosses, -⟩ := stretch
  exact settles.crossed crosses

/-- The comments at the front of a stretch are read before its text. -/
theorem Stretch.lies_leading (closed : ∀ c ∈ comments, c.Closed) (settles : Settles text)
    (stretch : cursor.Stretch (leading comments ++ text) after next) :
    ∃ comments', Alike comments comments' ∧ cursor.Lies comments' text after next := by
  obtain ⟨start, crosses, stretch⟩ := stretch.split
  obtain ⟨comments', alike, between⟩ := between_leading closed crosses
  exact ⟨comments', alike, start, between.trivia (settles.settled stretch), stretch⟩

/-- As before, with a blank in front. -/
theorem Stretch.lies_blank (closed : ∀ c ∈ comments, c.Closed) (settles : Settles text)
    (stretch : cursor.Stretch (' ' :: (leading comments ++ text)) after next) :
    ∃ comments', Alike comments comments' ∧ cursor.Lies comments' text after next := by
  obtain ⟨afterBlank, blank, stretch⟩ := stretch.head
  obtain ⟨start, crosses, stretch⟩ := stretch.split
  obtain ⟨comments', alike, between⟩ := between_leading closed crosses
  exact ⟨comments', alike, start,
    ((between_blank blank).trans between).trivia (settles.settled stretch), stretch⟩

/-- The comments at the end of a stretch are read after its text. -/
theorem Stretch.absorb (closed : ∀ c ∈ comments, c.Closed)
    (stretch : cursor.Stretch (text ++ trailing comments) after next) :
    ∃ comments', Alike comments comments' ∧ cursor.Stretch text (comments' ++ after) next := by
  obtain ⟨stop, crosses, ends, between, settled⟩ := stretch
  obtain ⟨middle, first, second⟩ := crosses.split
  obtain ⟨comments', alike, inside⟩ := between_trailing closed second
  refine ⟨comments', alike, middle, first, ?_, inside.trans between, settled⟩
  cases comments with
  | nil =>
    obtain ⟨-, rfl⟩ := second
    simpa using ends
  | cons c comments =>
    rw [trailing_cons] at second
    exact ⟨' ', _, second.1, .inl rfl⟩

/-- A blank and comments between two texts are read after the first. -/
theorem Stretch.cut (closed : ∀ c ∈ comments, c.Closed) (settles : Settles text)
    (stretch : cursor.Stretch (front ++ ' ' :: (leading comments ++ text)) after next) :
    ∃ comments' middle, Alike comments comments' ∧ cursor.Stretch front comments' middle ∧
      middle.Settled ∧ middle.Stretch text after next := by
  obtain ⟨afterFront, first, stretch⟩ := stretch.split
  obtain ⟨afterBlank, blank, stretch⟩ := stretch.head
  obtain ⟨middle, crosses, stretch⟩ := stretch.split
  obtain ⟨comments', alike, between⟩ := between_leading closed crosses
  have settled := settles.settled stretch
  refine ⟨comments', middle, alike, ⟨afterFront, first, ?_, ?_, settled⟩, settled, stretch⟩
  · exact ⟨' ', _, blank.1, .inl rfl⟩
  · exact (between_blank blank).trans between

end Cursor

end TemplateLang
