import TemplateLang.Print.Template
import TemplateLang.Proofs.Essence.Template
import TemplateLang.Proofs.RoundTrip.Derived

/-!
# Printed tags

The two ends of a tag, and what stands right after the opening end: a word, a name that is
bound, or an expression.  Comments before an expression are read with the mark before them,
and those that follow a word are read with the expression after it, so the ends that are read
may carry other comments than the printed ones.  The text stays the same.
-/

namespace TemplateLang

open Cursor Print

/-! ## The characters of marks -/

namespace Print

/-- The text of an opening mark. -/
def openMark (trims : Bool) : List Char :=
  '\x7b' :: '\x7b' :: Grammar.trimMark trims

/-- The text of a closing mark. -/
def closeMark (trims : Bool) : List Char :=
  Grammar.trimMark trims ++ ['\x7d', '\x7d']

theorem toList_tagComments (tag : Tag) : (tagComments tag).toList = trailing tag.comments := by
  unfold tagComments trailing
  induction tag.comments with
  | nil => rfl
  | cons c comments ih =>
    rw [List.map_cons, String.join_cons, String.toList_append, ih]
    simp

end Print

/-- The standard delimiter of an end of a tag. -/
def TagEnd.standard : TagEnd → String
  | .opening => Delimiters.standard.opening
  | .closing => Delimiters.standard.closing

/-- An end of a tag with the standard delimiter, and comments that close where they end. -/
structure Tag.IsStandard (side : TagEnd) (tag : Tag) : Prop where
  kind : tag.kind = side
  delimiter : tag.delimiter = side.standard
  closed : ∀ c ∈ tag.comments, c.Closed

variable {tag tag' : Tag} {side : TagEnd}

theorem Tag.IsStandard.toList_text_opening (isStandard : tag.IsStandard .opening) :
    tag.text.toList = openMark tag.trims := by
  unfold Tag.text
  rw [isStandard.kind, isStandard.delimiter]
  cases tag.trims <;> rfl

theorem Tag.IsStandard.toList_text_closing (isStandard : tag.IsStandard .closing) :
    tag.text.toList = closeMark tag.trims := by
  unfold Tag.text
  rw [isStandard.kind, isStandard.delimiter]
  cases tag.trims <;> rfl

theorem Tag.IsStandard.toList_opening (isStandard : tag.IsStandard .opening) :
    (Print.opening tag).toList = openMark tag.trims ++ trailing tag.comments := by
  rw [Print.opening, String.toList_append, toList_tagComments, isStandard.toList_text_opening]

theorem Tag.IsStandard.toList_closing (isStandard : tag.IsStandard .closing) :
    (Print.closing tag).toList = trailing tag.comments ++ ' ' :: closeMark tag.trims := by
  rw [Print.closing, String.toList_append, String.toList_append, toList_tagComments,
    isStandard.toList_text_closing]
  simp

/-- Two ends of tags that print alike. -/
structure Tag.Alike (side : TagEnd) (tag tag' : Tag) : Prop where
  isStandard : tag'.IsStandard side
  trims : tag'.trims = tag.trims
  comments : Print.Alike tag.comments tag'.comments

theorem Tag.Alike.essence (alike : Tag.Alike side tag tag') (isStandard : tag.IsStandard side) :
    tag'.essence = tag.essence := by
  unfold Tag.essence
  rw [alike.isStandard.kind, alike.isStandard.delimiter, alike.trims, isStandard.kind,
    isStandard.delimiter]

theorem Tag.Alike.text (alike : Tag.Alike side tag tag') (isStandard : tag.IsStandard side) :
    tag'.text = tag.text := by
  unfold Tag.text
  rw [alike.isStandard.kind, alike.isStandard.delimiter, alike.trims, isStandard.kind,
    isStandard.delimiter]

theorem Tag.Alike.opening (alike : Tag.Alike .opening tag tag')
    (isStandard : tag.IsStandard .opening) :
    Print.opening tag' = Print.opening tag := by
  apply String.toList_injective
  rw [alike.isStandard.toList_opening, isStandard.toList_opening, alike.trims,
    alike.comments.trailing_eq]

theorem Tag.Alike.closing (alike : Tag.Alike .closing tag tag')
    (isStandard : tag.IsStandard .closing) :
    Print.closing tag' = Print.closing tag := by
  apply String.toList_injective
  rw [alike.isStandard.toList_closing, isStandard.toList_closing, alike.trims,
    alike.comments.trailing_eq]

/-- An end of a tag with more comments. -/
def Tag.addComments (tag : Tag) (more : List Comment) : Tag :=
  { tag with comments := tag.comments ++ more }

theorem Tag.addComments_nil (tag : Tag) : tag.addComments [] = tag := by
  rw [addComments, List.append_nil]

theorem Tag.IsStandard.addComments {more : List Comment} (isStandard : tag.IsStandard side)
    (closed : ∀ c ∈ more, c.Closed) : (tag.addComments more).IsStandard side where
  kind := isStandard.kind
  delimiter := isStandard.delimiter
  closed c isIn := (List.mem_append.mp isIn).elim (isStandard.closed c) (closed c)

namespace Grammar

variable {setting : Setting} {cursor start stop next : Cursor} {comments : List Comment}
  {text : List Char} {trims : Bool}

/-! ## Ends that are read -/

theorem isStandard_of_openingTag (standard : setting.tags = Delimiters.standard)
    (opens : openingTag setting cursor = .ok (tag, next)) :
    tag.IsStandard .opening ∧ next.Settled := by
  obtain ⟨-, comments, read, rfl⟩ := openingTag_eq_ok.mp opens
  have settled := settled_of_trivia read
  exact ⟨⟨rfl, by rw [standard]; rfl, settled.2⟩, settled.1⟩

theorem isStandard_of_closingTag (standard : setting.tags = Delimiters.standard)
    (closes : closingTag setting cursor = .ok (tag, next)) : tag.IsStandard .closing := by
  obtain ⟨comments, start, read, -, -, rfl⟩ := closingTag_eq_ok.mp closes
  exact ⟨rfl, by rw [standard]; rfl, (settled_of_trivia read).2⟩

/-- No comments are left for the closing end after a settled place. -/
theorem no_comments_of_closingTag (settled : cursor.Settled)
    (closes : closingTag setting cursor = .ok (tag, next)) : tag.comments = [] := by
  obtain ⟨comments, start, read, -, -, rfl⟩ := closingTag_eq_ok.mp closes
  rw [settled.trivia] at read
  exact (Prod.mk.inj (Except.ok.inj read)).1.symm

theorem settles_closeMark (trims : Bool) : Settles (closeMark trims) := by
  intro more
  cases trims <;> exact settled_of_char (by decide) (by decide)

theorem atClosing_closeMark (standard : setting.tags = Delimiters.standard)
    (crosses : start.Crosses (closeMark trims) stop) : setting.atClosing start.rest = true := by
  unfold Setting.atClosing
  rw [standard, crosses.1]
  cases trims <;> rfl

/-- A printed opening end is read up to the text after it, with the comments before that. -/
theorem opening_reads_leading {before : List Comment}
    (standard : setting.tags = Delimiters.standard)
    (isStandard : tag.IsStandard .opening) (closed : ∀ c ∈ before, c.Closed)
    (settles : Settles text)
    (crosses : cursor.Crosses
      ((Print.opening tag).toList ++ ' ' :: (leading before ++ text)) stop) :
    ∃ tag' start, Tag.Alike .opening (tag.addComments before) tag' ∧
      openingTag setting cursor = .ok (tag', start) ∧ start.Settled ∧ start.Crosses text stop := by
  have whole := isStandard.addComments closed
  have sameText : (Print.opening tag).toList ++ ' ' :: (leading before ++ text) =
      openMark tag.trims ++ ' ' :: (leading (tag.comments ++ before) ++ text) := by
    rw [isStandard.toList_opening, List.append_assoc, trailing_blank, leading_append,
      List.append_assoc]
  rw [sameText] at crosses
  obtain ⟨afterMark, mark, crosses⟩ := crosses.split
  obtain ⟨afterBlank, blank, crosses⟩ := crosses.head
  obtain ⟨start, inside, crosses⟩ := crosses.split
  obtain ⟨comments', alike, between⟩ := between_leading whole.closed inside
  have settled : start.Settled := settles.crossed crosses
  have read := ((between_blank blank).trans between).trivia settled
  have opens := openingTag_reads tag.trims standard mark
    (fun _ => isAt_eq_false blank.1 (by decide)) read
  exact ⟨_, start, ⟨(isStandard_of_openingTag standard opens).1, rfl, alike⟩, opens, settled,
    crosses⟩

/-- A printed opening end is read up to the text after it. -/
theorem opening_reads (standard : setting.tags = Delimiters.standard)
    (isStandard : tag.IsStandard .opening) (settles : Settles text)
    (crosses : cursor.Crosses ((Print.opening tag).toList ++ ' ' :: text) stop) :
    ∃ tag' start, Tag.Alike .opening tag tag' ∧ openingTag setting cursor = .ok (tag', start) ∧
      start.Settled ∧ start.Crosses text stop := by
  obtain ⟨tag', start, alike, read⟩ :=
    opening_reads_leading standard isStandard (List.forall_mem_nil _) settles crosses
  exact ⟨tag', start, tag.addComments_nil ▸ alike, read⟩

/-- One blank is passed before what is none. -/
theorem skipBlanks_blank (blank : cursor.Crosses [' '] next)
    (starts : ∀ c rest, next.rest = c :: rest → Unicode.isBlank c = false) :
    cursor.skipBlanks = next := by
  have nextEq : cursor.skip 1 = next := blank.2.symm
  rw [skipBlanks_of_blank blank.1 (by decide), nextEq]
  cases restEq : next.rest with
  | nil => rw [Cursor.skipBlanks, skipWhile, restEq]; exact skip_zero next
  | cons c rest => exact skipBlanks_eq_self restEq (starts c rest restEq)

/-- The first character of a printed closing end after its blank. -/
theorem closing_starts (isStandard : tag.IsStandard .closing) :
    ∃ c rest, (Print.closing tag).toList = ' ' :: c :: rest ∧ Unicode.isBlank c = false ∧
      isWordStart c = false ∧ c ≠ ':' := by
  rw [isStandard.toList_closing, trailing_blank]
  cases tag.comments with
  | nil => cases tag.trims <;> exact ⟨_, _, rfl, by decide, by decide, by decide⟩
  | cons c comments =>
    rw [leading_cons, toList_comment]
    exact ⟨'/', _, rfl, by decide, by decide, by decide⟩

/-- What is seen of a printed closing end from before it. -/
theorem skipBlanks_closing (isStandard : tag.IsStandard .closing)
    (crosses : cursor.Crosses (Print.closing tag).toList stop) :
    cursor.Apart ∧ cursor.Crosses [' '] cursor.skipBlanks ∧ cursor.skipBlanks.peekWord? = none ∧
      ∃ c rest, cursor.skipBlanks.rest = c :: rest ∧ c ≠ ':' := by
  obtain ⟨c, rest, textEq, notBlank, noWord, notColon⟩ := closing_starts isStandard
  rw [textEq] at crosses
  obtain ⟨afterBlank, blank, crosses⟩ := crosses.head
  have starts : afterBlank.rest = c :: (rest ++ stop.rest) := crosses.1
  have skipEq : cursor.skipBlanks = afterBlank := by
    refine skipBlanks_blank blank fun d rest' restEq => ?_
    obtain ⟨rfl, -⟩ := List.cons.inj (starts.symm.trans restEq)
    exact notBlank
  rw [skipEq]
  exact ⟨apart_of_char blank.1 (by decide), blank, peekWord?_eq_none starts noWord, c, _, starts,
    notColon⟩

/-- A printed closing end is read, also from after its first blank. -/
theorem closing_reads (standard : setting.tags = Delimiters.standard)
    (isStandard : tag.IsStandard .closing)
    (crosses : cursor.Crosses (Print.closing tag).toList stop) :
    ∃ tag', Tag.Alike .closing tag tag' ∧ closingTag setting cursor = .ok (tag', stop) ∧
      closingTag setting cursor.skipBlanks = .ok (tag', stop) := by
  obtain ⟨-, blank, -⟩ := skipBlanks_closing isStandard crosses
  rw [isStandard.toList_closing, trailing_blank] at crosses
  obtain ⟨afterBlank, blank', crosses⟩ := crosses.head
  obtain rfl : afterBlank = cursor.skipBlanks := blank'.2.trans blank.2.symm
  obtain ⟨start, inside, crosses⟩ := crosses.split
  obtain ⟨comments', alike, between⟩ := between_leading isStandard.closed inside
  have settled : start.Settled := (settles_closeMark _).crossed crosses
  have closes := closingTag_reads tag.trims standard (between.trivia settled) crosses
  exact ⟨_, ⟨isStandard_of_closingTag standard closes, rfl, alike⟩,
    closingTag_reads tag.trims standard (((between_blank blank).trans between).trivia settled)
      crosses, closes⟩

/-! ## Words -/

/-- A printed word, and the place after it. -/
structure AtWord (cursor : Cursor) (word : String) (afterWord : Cursor) : Prop where
  peek : cursor.peekWord? = some word
  skip : cursor.skipWord = afterWord
  settled : cursor.Settled

variable {word : String}

theorem settles_word (shaped : isWordShaped word.toList = true) (rest : List Char) :
    Settles (word.toList ++ rest) := by
  obtain ⟨c, text, textEq, starts⟩ := opens_word shaped
  rw [textEq]
  exact (Opens.primary starts).settles

theorem atWord (shaped : isWordShaped word.toList = true)
    (crosses : cursor.Crosses word.toList stop) (apart : stop.Apart) : AtWord cursor word stop := by
  obtain ⟨peek, skip⟩ := word_reads shaped crosses apart
  rw [String.ofList_toList] at peek
  have settles := settles_word shaped []
  rw [List.append_nil] at settles
  exact ⟨peek, skip, settles.crossed crosses⟩

/-- A word is read up to the blank after it. -/
theorem word_blank (shaped : isWordShaped word.toList = true)
    (crosses : cursor.Crosses (word.toList ++ ' ' :: text) stop) :
    ∃ afterWord next, AtWord cursor word afterWord ∧ afterWord.Crosses [' '] next ∧
      next.Crosses text stop := by
  obtain ⟨afterWord, crossesWord, crosses⟩ := crosses.split
  obtain ⟨next, blank, crosses⟩ := crosses.head
  exact ⟨afterWord, next, atWord shaped crossesWord (apart_of_char blank.1 (by decide)), blank,
    crosses⟩

theorem AtWord.not_closing (atWord : AtWord cursor word stop)
    (standard : setting.tags = Delimiters.standard) : setting.atClosing cursor.rest = false := by
  obtain ⟨c, rest, restEq, starts⟩ := word_starts atWord.peek
  rw [restEq]
  exact (Opens.primary (by simp [startsPrimary, starts])).not_closing standard

/-- No name is declared where no colon comes after a word. -/
theorem declaration?_eq_none (notColon : cursor.skipWord.skipBlanks.isAt [':'] = false) :
    declaration? cursor = none := by
  unfold declaration?
  split
  · dsimp only
    rw [if_neg]
    rw [isAt_iff]
    rintro ⟨rest, restEq⟩
    rw [isAt_singleton_iff.mpr ⟨_, restEq.symm⟩] at notColon
    exact Bool.noConfusion notColon
  · rfl

theorem AtWord.no_declaration {c : Char} {rest : List Char} (atWord : AtWord cursor word stop)
    (restEq : stop.skipBlanks.rest = c :: rest) (notColon : c ≠ ':') :
    declaration? cursor = none := by
  apply declaration?_eq_none
  rw [atWord.skip]
  exact isAt_eq_false restEq notColon

/-- A tag with a word that ends a body is read. -/
theorem endsBody_reads (standard : setting.tags = Delimiters.standard)
    (isStandard : tag.IsStandard .opening) (shaped : isWordShaped word.toList = true)
    (crosses : cursor.Crosses ((Print.opening tag).toList ++ ' ' :: word.toList) stop)
    (apart : stop.Apart) :
    ∃ tag', Tag.Alike .opening tag tag' ∧ EndsBody setting cursor tag' word stop ∧
      ∀ stops : List String, atBlockWord setting stops cursor = stops.contains word := by
  have settles := settles_word shaped []
  rw [List.append_nil] at settles
  obtain ⟨tag', start, alike, opens, -, crossesWord⟩ :=
    opening_reads standard isStandard settles crosses
  have atWord := atWord shaped crossesWord apart
  refine ⟨tag', alike, ⟨?_, start, opens, ?_, atWord.skip.symm⟩, fun stops => ?_⟩
  · rw [crosses.1, isStandard.toList_opening]
    rfl
  · rw [atWord.peek]
    rfl
  · rw [atBlockWord_of_openingTag opens, atWord.peek]
    rfl

/-! ## Expressions before a closing end -/

/-- The layers at which an operand takes a level of nesting. -/
def Goal.takesLevel : Goal → Bool
  | .unary _ | .joined _ _ | .conditional _ | .command _ | .pipeline _ => true
  | _ => false

/-- Where an operand is read a level of nesting is left. -/
theorem Derives.someRoom {goal : Goal} (derived : Derives setting goal cursor next)
    (takes : goal.takesLevel = true) : ∃ room, setting.room = room + 1 := by
  induction derived with
  | operator someRoom => exact ⟨_, someRoom⟩
  | operand someRoom => exact ⟨_, someRoom⟩
  | tightest _ ih => exact ih rfl
  | tier _ _ ih => exact ih rfl
  | test _ _ ih => exact ih rfl
  | choice _ _ _ _ _ ih => exact ih rfl
  | noCommand _ _ ih => exact ih rfl
  | command _ _ _ ih => exact ih rfl
  | pipeline _ _ ih => exact ih rfl
  | _ => simp [Goal.takesLevel] at takes

/-- Neither a blank nor a comment begins where an argument does. -/
theorem settled_of_argument (starts : atArgument setting cursor.rest = true) : cursor.Settled := by
  unfold Settled
  unfold atArgument at starts
  split at starts
  · exact absurd starts Bool.false_ne_true
  split at starts
  · exact absurd starts Bool.false_ne_true
  rename_i c rest restEq
  rw [restEq]
  by_cases primary : startsPrimary c = true
  · simpa using (@Opens.primary c rest primary).settles []
  · have isSign : c = '.' ∨ c = '!' ∨ c = '~' ∨ c = '+' ∨ c = '-' := by
      simp only [startsPrimary, Bool.or_eq_true, not_or, Bool.not_eq_true] at primary
      obtain ⟨⟨noWord, noDigit⟩, noBracket⟩ := primary
      simp only [noWord, noDigit, Bool.or_false, Bool.false_eq_true, if_false] at starts
      simp only [List.contains_eq_mem, List.mem_cons, List.not_mem_nil, or_false,
        decide_eq_false_iff_not, not_or] at noBracket
      split at starts
      · exact .inl ‹_›
      split at starts
      · exact .inr (.inl ‹_›)
      · exact .inr (.inr (by simpa [noBracket] using starts))
    rcases isSign with rfl | rfl | rfl | rfl | rfl <;>
      exact settled_of_char (by decide) (by decide)

/-- No argument begins at a closing end. -/
theorem not_argument_of_closingTag (standard : setting.tags = Delimiters.standard)
    (closes : closingTag setting cursor = .ok (tag, next)) :
    atArgument setting cursor.rest = false := by
  obtain ⟨comments, start, read, atMark, -, -⟩ := closingTag_eq_ok.mp closes
  rw [Bool.eq_false_iff]
  intro starts
  obtain rfl := trivia_of_settled (settled_of_argument starts) read
  rw [(endsCommand_of_closing standard atMark).noArgument] at starts
  exact Bool.false_ne_true starts

variable {room : Nat} {expr : Expr} {closing : Tag} {before before' : List Comment}
  {body : List Char}

/-- The body of a printed expression is read up to the closing end after it. -/
theorem body_reads (content : ReadsBody room true expr before body
      (fun setting after next => after = [] ∧ EndsCommand setting next) Pipeable)
    (standard : Standard setting room) (isStandard : closing.IsStandard .closing)
    (noComments : closing.comments = [])
    (read : TemplateLang.trivia cursor = .ok (before', start))
    (crosses : start.Crosses (body ++ (Print.closing closing).toList) stop) :
    ∃ expr' next closing', Reread true expr before body before' [] expr' ∧
      Derives setting (.pipeline expr') cursor next ∧ next.isAt [':', '='] = false ∧
      Tag.Alike .closing closing closing' ∧ closingTag setting next = .ok (closing', stop) := by
  rw [isStandard.toList_closing, noComments, trailing_nil, List.nil_append] at crosses
  obtain ⟨afterBody, crossesBody, crosses⟩ := crosses.split
  obtain ⟨next, blank, mark⟩ := crosses.head
  have settled : next.Settled := (settles_closeMark _).crossed mark
  have atMark := atClosing_closeMark standard.1 mark
  have ends := endsCommand_of_closing standard.1 atMark
  obtain ⟨expr', pipeable, reread⟩ := content.2 standard
    ⟨start, read, crossesBody.stretch_blank blank settled⟩ ⟨rfl, ends⟩
  have closes := closingTag_reads closing.trims standard.1 settled.trivia mark
  refine ⟨expr', next, _, reread, pipeable _ _ (.noPipe ?_), ?_,
    ⟨isStandard_of_closingTag standard.1 closes, rfl, ?_⟩, closes⟩
  · rw [mark.1]
    cases closing.trims <;> rfl
  · rw [Cursor.isAt, mark.1]
    cases closing.trims <;> rfl
  · rw [noComments]
    exact Alike.refl []

/-- A printed expression after a blank is read up to the closing end after it. -/
theorem expression_reads (content : Reads room .pipeline expr) (standard : Standard setting room)
    (isStandard : closing.IsStandard .closing) (noComments : closing.comments = [])
    (crosses : cursor.Crosses (' ' :: (chars true expr ++ (Print.closing closing).toList)) stop) :
    ∃ expr' next closing', Echoes true expr expr' ∧ Derives setting (.pipeline expr') cursor next ∧
      Tag.Alike .closing closing closing' ∧ closingTag setting next = .ok (closing', stop) := by
  obtain ⟨before, body, content⟩ := content
  have spelled := content.1
  obtain ⟨afterBlank, blank, crosses⟩ := crosses.head
  rw [spelled.text, List.append_assoc] at crosses
  obtain ⟨start, inside, crosses⟩ := crosses.split
  obtain ⟨before', alike, between⟩ := between_leading spelled.closed inside
  have settled : start.Settled := (spelled.opens.settles.append _).crossed crosses
  obtain ⟨expr', next, closing', reread, derived, -, closes⟩ := body_reads content standard
    isStandard noComments (((between_blank blank).trans between).trivia settled) crosses
  exact ⟨expr', next, closing', reread.echoes spelled alike, derived, closes⟩

end Grammar

end TemplateLang
