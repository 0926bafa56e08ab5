import TemplateLang.Proofs.Grammar.BlockCompleteness
import TemplateLang.Proofs.RoundTrip.Pipelines

/-!
# Expressions as statements

A tag could hold an expression and yet be read as something else, if it began with the word
of another statement or with a name and `:=`.  Neither happens to a printed expression.  Its
first word is one that an operand can begin with, and what is read up to the closing mark
cannot also be read up to a `:=` before it, because reading has one result.
-/

namespace TemplateLang

namespace Grammar

open Cursor Print

variable {setting : Setting} {cursor next : Cursor} {word : String}

/-! ## The first word -/

theorem word_starts (atWord : cursor.peekWord? = some word) :
    ∃ c rest, cursor.rest = c :: rest ∧ isWordStart c = true := by
  cases restEq : cursor.rest with
  | nil => simp [peekWord?, Cursor.word, restEq] at atWord
  | cons c rest =>
    refine ⟨c, rest, rfl, ?_⟩
    rw [← Bool.not_eq_false]
    intro noWord
    rw [peekWord?_eq_none restEq noWord] at atWord
    simp at atWord

/-- A character that begins no word is not where a word begins. -/
theorem not_at_of_word (atWord : cursor.peekWord? = some word) {c : Char}
    (other : isWordStart c = false) : cursor.isAt [c] = false := by
  obtain ⟨d, rest, starts, isStart⟩ := word_starts atWord
  refine isAt_eq_false starts ?_
  rintro rfl
  rw [isStart] at other
  exact Bool.noConfusion other

theorem isWordStart_sign {c : Char} (isStart : isWordStart c = true) :
    ['+', '-', '~', '!'].contains c = false :=
  startsPrimary_no_sign (by simp [startsPrimary, isStart])

/-- No operator stands before a word. -/
theorem no_operator_of_word (atWord : cursor.peekWord? = some word) (setting : Setting) :
    unaryOp? setting cursor.rest = none ∧ updateOp? setting cursor.rest = none := by
  obtain ⟨c, rest, starts, isStart⟩ := word_starts atWord
  rw [starts]
  refine ⟨unaryOp?_eq_none (isWordStart_sign isStart), updateOp?_eq_none ?_ ?_⟩
  all_goals
    rintro rfl
    exact absurd isStart (by decide)

theorem trivia_of_settled {comments : List Comment} (settled : cursor.Settled)
    (read : TemplateLang.trivia cursor = .ok (comments, next)) : next = cursor := by
  rw [settled.trivia] at read
  exact (Prod.mk.inj (Except.ok.inj read)).2.symm

/-- The first word of an expression is one that an operand begins with. -/
theorem Derives.first_word {goal : Goal} (derived : Derives setting goal cursor next)
    (isExpression : goal.isExpression = true) (settled : cursor.Settled)
    (atWord : cursor.peekWord? = some word) :
    ∃ expr, wordExpr cursor word = .ok (expr, cursor.skipWord) := by
  induction derived with
  | paren opens =>
    exact Bool.noConfusion (opens.symm.trans (not_at_of_word atWord (by decide)))
  | array opens =>
    exact Bool.noConfusion (opens.symm.trans (not_at_of_word atWord (by decide)))
  | word _ _ starts read =>
    obtain rfl := Option.some.inj (starts.symm.trans atWord)
    exact ⟨_, reaches_of_wordExpr read ▸ read⟩
  | literal _ _ noWord => exact absurd (noWord.symm.trans atWord) (by simp)
  | suffixed _ _ start => exact start rfl settled atWord
  | updateBefore starts =>
    exact absurd (starts.symm.trans (no_operator_of_word atWord _).2) (by simp)
  | updateAfter _ _ _ _ operand => exact operand rfl settled atWord
  | noUpdate _ _ _ operand => exact operand rfl settled atWord
  | operator _ before starts =>
    obtain rfl := trivia_of_settled settled before
    exact absurd (starts.symm.trans (no_operator_of_word atWord _).1) (by simp)
  | operand _ before _ _ _ operand =>
    obtain rfl := trivia_of_settled settled before
    exact operand rfl settled atWord
  | tightest _ operand => exact operand rfl settled atWord
  | tier _ _ start => exact start rfl settled atWord
  | test _ _ start => exact start rfl settled atWord
  | choice _ _ _ _ _ start => exact start rfl settled atWord
  | noCommand _ _ start => exact start rfl settled atWord
  | command _ _ _ start => exact start rfl settled atWord
  | pipeline _ _ start => exact start rfl settled atWord
  | _ => simp [Goal.isExpression] at isExpression

/-- No operand begins with the word of a statement. -/
theorem not_statementWord {expr : Expr} (read : wordExpr cursor word = .ok (expr, next)) :
    word ∉ statementWords := by
  intro isIn
  simp only [statementWords, List.mem_cons, List.not_mem_nil, or_false] at isIn
  rcases isIn with rfl | rfl | rfl | rfl | rfl | rfl <;>
    simp [wordExpr, isReserved, reservedWords] at read

/-! ## Declarations -/

/-- A name before `:=` is an expression that ends there. -/
theorem derives_name {room : Nat} {expr : Expr} (someRoom : setting.room = room + 1)
    (settled : cursor.Settled) (atWord : cursor.peekWord? = some word)
    (read : wordExpr cursor word = .ok (expr, cursor.skipWord))
    (declares : cursor.skipWord.skipBlanks.isAt [':', '='] = true) :
    ∃ expr, Derives setting (.pipeline expr) cursor cursor.skipWord.skipBlanks := by
  obtain ⟨rest, starts⟩ : ∃ rest, cursor.skipWord.skipBlanks.rest = ':' :: rest := by
    obtain ⟨rest, restEq⟩ := isAt_iff.mp declares
    exact ⟨'=' :: rest, restEq.symm⟩
  have ends : EndsCommand setting cursor.skipWord.skipBlanks :=
    endsCommand_of_char starts (by decide)
  -- Neither a suffix nor an update follows the name, since a blank or the colon does.
  have follows : ∃ c rest, cursor.skipWord.rest = c :: rest ∧
      (Unicode.isBlank c = true ∨ c = ':') := by
    cases restEq : cursor.skipWord.rest with
    | nil => simp [skipBlanks, skipWhile, restEq] at starts
    | cons c rest' =>
      refine ⟨c, rest', rfl, ?_⟩
      by_cases isBlank : Unicode.isBlank c = true
      · exact .inl isBlank
      · rw [skipBlanks_eq_self restEq (Bool.eq_false_iff.mpr isBlank), restEq] at starts
        exact .inr (List.cons.inj starts).1
  obtain ⟨c, rest', followsEq, isEnd⟩ := follows
  have differs (d : Char) (notBlank : Unicode.isBlank d = false) (notColon : d ≠ ':') : c ≠ d := by
    rintro rfl
    rcases isEnd with isBlank | isColon
    · exact Bool.noConfusion (isBlank.symm.trans notBlank)
    · exact notColon isColon
  have notAt (d : Char) (notBlank : Unicode.isBlank d = false) (notColon : d ≠ ':') :
      cursor.skipWord.isAt [d] = false :=
    isAt_eq_false followsEq (differs d notBlank notColon)
  have noUpdate (setting : Setting) : updateOp? setting cursor.skipWord.rest = none := by
    rw [followsEq]
    exact updateOp?_eq_none (differs '+' (by decide) (by decide))
      (differs '-' (by decide) (by decide))
  have afterName : TemplateLang.trivia cursor.skipWord = .ok ([], cursor.skipWord.skipBlanks) := by
    have settledColon : cursor.skipWord.skipBlanks.Settled :=
      settled_of_rest starts (by decide) (by decide)
    exact Reading.loop_of_rounds (Reading.rounds_of_done
      (triviaRound_eq_done.mpr ⟨settledColon.no_comment, rfl, rfl⟩))
  obtain ⟨noOperator, noneBefore⟩ := no_operator_of_word atWord { setting with room := room }
  have operand := Derives.noUpdate noneBefore
    (.suffixed
      (.word (not_at_of_word atWord (by decide)) (not_at_of_word atWord (by decide)) atWord read)
      (.noSuffix (notAt '.' (by decide) (by decide)) (notAt '[' (by decide) (by decide))
        (notAt '(' (by decide) (by decide)))) (noUpdate _)
  have unary := Derives.operand someRoom settled.trivia noOperator operand afterName
  have noPipe : atPipe setting cursor.skipWord.skipBlanks.rest = false := by
    rw [starts]
    rfl
  refine ⟨_, .pipeline (.noCommand (unary.unary_conditional ends.toEndsConditional) ?_)
    (.noPipe noPipe)⟩
  rw [ends.noArgument, Bool.and_false]

/-- A text that is read as an expression does not begin with a declaration. -/
theorem no_declaration {room : Nat} {expr : Expr} (someRoom : setting.room = room + 1)
    (settled : cursor.Settled) (derived : Derives setting (.pipeline expr) cursor next)
    (notColon : next.isAt [':', '='] = false) : declaration? cursor = none := by
  unfold declaration?
  split
  · rename_i word atWord
    dsimp only
    split
    · rename_i declares
      obtain ⟨_, read⟩ := derived.first_word rfl settled atWord
      obtain ⟨_, named⟩ := derives_name someRoom settled atWord read declares
      have same := (expression_of_derives derived).symm.trans (expression_of_derives named)
      have nextEq : next = cursor.skipWord.skipBlanks := (Prod.mk.inj (Except.ok.inj same)).2
      rw [nextEq, declares] at notColon
      exact Bool.noConfusion notColon
    · rfl
  · rfl

/-! ## Statements -/

/-- What is read as an expression up to a closing mark is a statement. -/
theorem derives_statement {room : Nat} {expr : Expr} (someRoom : setting.room = room + 1)
    (settled : cursor.Settled) (derived : Derives setting (.pipeline expr) cursor next)
    (notAtEnd : setting.atClosing cursor.rest = false)
    (notColon : next.isAt [':', '='] = false) :
    DerivesBlock setting (.statement (.expression expr)) cursor next := by
  refine .expression notAtEnd (no_declaration someRoom settled derived notColon) ?_ derived
  intro word atWord
  obtain ⟨_, read⟩ := derived.first_word rfl settled atWord
  exact not_statementWord read

/-! ## The ends of tags -/

/-- A trim marker, if there is one. -/
def trimMark (trims : Bool) : List Char :=
  if trims then ['-'] else []

/-- A printed opening mark is read with the comments after it. -/
theorem openingTag_reads (trims : Bool) {comments : List Comment} {afterMark : Cursor}
    (standard : setting.tags = Delimiters.standard)
    (mark : cursor.Crosses ('\x7b' :: '\x7b' :: trimMark trims) afterMark)
    (noMark : trims = false → afterMark.isAt ['-'] = false)
    (read : TemplateLang.trivia afterMark = .ok (comments, next)) :
    openingTag setting cursor =
      .ok (⟨.opening, Delimiters.standard.opening, trims, comments, cursor.spanTo afterMark⟩,
        next) := by
  have starts : startsWithMark cursor.rest setting.tags.opening.toList = true := by
    rw [standard, mark.1]
    rfl
  have trimsEq : (cursor.skip setting.tags.opening.length).isAt ['-'] = trims := by
    rw [standard]
    cases trims with
    | true =>
      refine isAt_singleton_iff.mpr ⟨afterMark.rest, ?_⟩
      rw [rest_skip, mark.1]
      rfl
    | false =>
      have afterEq : afterMark = cursor.skip 2 := mark.2
      exact afterEq ▸ noMark rfl
  have afterEq : afterOpening setting.tags cursor = afterMark := by
    unfold afterOpening
    dsimp only
    rw [trimsEq, mark.2, standard]
    cases trims with
    | true => exact skip_skip cursor 2 1
    | false => rfl
  refine openingTag_eq_ok.mpr ⟨starts, comments, ?_, ?_⟩
  · rw [afterEq, read]
  · rw [afterEq, trimsEq, standard]

/-- A printed closing mark is read with the comments before it. -/
theorem closingTag_reads (trims : Bool) {comments : List Comment} {start : Cursor}
    (standard : setting.tags = Delimiters.standard)
    (read : TemplateLang.trivia cursor = .ok (comments, start))
    (mark : start.Crosses (trimMark trims ++ ['\x7d', '\x7d']) next) :
    closingTag setting cursor = .ok
      (⟨.closing, Delimiters.standard.closing, trims, comments, start.spanTo next⟩, next) := by
  have trimsEq : startsWithTrimmed start.rest setting.tags.closing.toList = trims := by
    rw [standard, mark.1]
    cases trims <;> rfl
  refine closingTag_eq_ok.mpr ⟨comments, start, read, ?_, ?_, ?_⟩
  · unfold Setting.atClosing
    rw [standard, mark.1]
    cases trims <;> rfl
  · rw [trimsEq, mark.2, standard]
    cases trims <;> rfl
  · rw [trimsEq, standard]

end Grammar

end TemplateLang
