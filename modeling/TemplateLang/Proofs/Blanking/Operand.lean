import TemplateLang.Proofs.Blanking.Twin
import TemplateLang.Proofs.RoundTrip.Statements

/-!
# Where operands begin

A list ends at a closing bracket after blanks, but not after a comment.  So it matters that no
operand begins with a closing bracket.  Arguments end where no operand begins: only a reserved
word, or a character that begins nothing, is refused without an error.  Either way twins are
alike.
-/

namespace TemplateLang

namespace Grammar

open Cursor

variable {setting : Setting} {cursor cursor' next start : Cursor} {gap : Gap}

/-! ## Beginnings -/

/-- How an operand begins: with a character of a primary expression, with a point and a digit,
or with an operator before it. -/
inductive StartsOperand (setting : Setting) (text : List Char) : Prop where
  | primary {c : Char} {rest : List Char} (textEq : text = c :: rest)
      (starts : startsPrimary c = true)
  | point {c : Char} {rest : List Char} (textEq : text = '.' :: c :: rest)
      (isDigit : c.isDigit = true)
  | update {op : UpdateOp} (starts : updateOp? setting text = some op)
  | operator {op : UnaryOp} (starts : unaryOp? setting text = some op)

/-- The nesting makes no difference to how an operand begins. -/
theorem StartsOperand.nested {room : Nat} {text : List Char}
    (starts : StartsOperand { setting with room := room } text) : StartsOperand setting text := by
  cases starts with
  | primary textEq starts => exact .primary textEq starts
  | point textEq isDigit => exact .point textEq isDigit
  | update starts => exact .update starts
  | operator starts => exact .operator starts

/-- Operands begin so after blanks and comments. -/
def Goal.Begins (setting : Setting) (cursor : Cursor) : Goal → Prop
  | .primary _ | .suffixed _ | .update _ => StartsOperand setting cursor.rest
  | .unary _ | .joined _ _ | .conditional _ | .command _ | .pipeline _ =>
    ∃ comments start, TemplateLang.trivia cursor = .ok (comments, start) ∧
      StartsOperand setting start.rest
  | _ => True

theorem startsOperand_of_isAt {c : Char} (isAt : cursor.isAt [c] = true)
    (starts : startsPrimary c = true) : StartsOperand setting cursor.rest := by
  rcases isAt_singleton_iff.mp isAt with ⟨rest, restEq⟩
  exact .primary restEq starts

theorem startsOperand_of_word {word : String} (atWord : cursor.peekWord? = some word) :
    StartsOperand setting cursor.rest := by
  rcases word_starts atWord with ⟨c, rest, restEq, starts⟩
  exact .primary restEq (by simp [startsPrimary, starts])

theorem startsOperand_of_literal {expr : Expr} (read : literal cursor = .ok (expr, next)) :
    StartsOperand setting cursor.rest := by
  rcases literal_eq_ok.mp read with ⟨value, quote, found, -⟩ | ⟨-, value, found, -⟩
  · have isQuote : Literal.quote? cursor ≠ none := by
      intro noQuote
      rw [Literal.string_eq_absent.mpr noQuote] at found
      simp at found
    rcases Option.ne_none_iff_exists'.mp isQuote with ⟨quote, isQuote⟩
    rcases Literal.quote?_eq_some.mp isQuote with ⟨rest, restEq⟩
    exact .primary restEq (by cases quote <;> decide)
  · rw [Literal.number_eq] at found
    split at found
    · rename_i base name isAnnounced
      unfold Literal.announced at isAnnounced
      split at isAnnounced
      · rename_i restEq
        exact .primary restEq (by decide)
      · simp at isAnnounced
    · split at found
      · rename_i starts
        rcases Literal.startsDecimal_cases starts with
          ⟨c, rest, restEq, isDigit⟩ | ⟨c, rest, restEq, isDigit⟩
        · exact .primary restEq (by simp [startsPrimary, isDigit])
        · exact .point restEq isDigit
      · simp at found

/-- Whatever is derived for an operand begins as operands do. -/
theorem Derives.begins {goal : Goal} (derived : Derives setting goal cursor next) :
    goal.Begins setting cursor := by
  induction derived with
  | paren opens | array opens => exact startsOperand_of_isAt opens (by decide)
  | word _ _ starts => exact startsOperand_of_word starts
  | literal _ _ _ read => exact startsOperand_of_literal read
  | suffixed _ _ start => exact start
  | updateBefore starts => exact .update starts
  | updateAfter _ _ _ _ operand => exact operand
  | noUpdate _ _ _ operand => exact operand
  | operator _ before starts => exact ⟨_, _, before, .operator starts⟩
  | operand _ before _ _ _ operand => exact ⟨_, _, before, operand.nested⟩
  | tightest _ operand => exact operand
  | tier _ _ start => exact start
  | test _ _ start => exact start
  | choice _ _ _ _ _ start => exact start
  | noCommand _ _ start => exact start
  | command _ _ _ start => exact start
  | pipeline _ _ start => exact start
  | _ => trivial

/-- A place at none of the characters that end an expression. -/
def NotEnding (cursor : Cursor) : Prop :=
  ∀ c ∈ [')', ']', ':'], cursor.isAt [c] = false

theorem StartsOperand.notEnding (starts : StartsOperand setting cursor.rest) :
    NotEnding cursor := by
  intro c isIn
  rw [Bool.eq_false_iff]
  intro isAt
  rcases isAt_singleton_iff.mp isAt with ⟨rest, restEq⟩
  simp only [List.mem_cons, List.not_mem_nil, or_false] at isIn
  rw [restEq] at starts
  cases starts with
  | primary textEq starts =>
    rcases List.cons.inj textEq with ⟨rfl, -⟩
    rcases isIn with rfl | rfl | rfl <;> exact absurd starts (by decide)
  | point textEq =>
    rcases List.cons.inj textEq with ⟨rfl, -⟩
    simp at isIn
  | update starts =>
    rw [updateOp?_eq_none] at starts
    · simp at starts
    all_goals
      rintro rfl
      simp at isIn
  | operator starts =>
    rw [unaryOp?_eq_none] at starts
    · simp at starts
    · rcases isIn with rfl | rfl | rfl <;> rfl

/-- No operand begins where a tag is closed. -/
theorem StartsOperand.not_closing {text : List Char} (starts : StartsOperand setting text)
    (standard : setting.tags = Delimiters.standard) : setting.atClosing text = false := by
  cases starts with
  | primary textEq starts =>
    rw [textEq]
    apply atClosing_eq_false standard
    · rintro rfl
      exact absurd starts (by decide)
    · rintro rfl
      exact absurd starts (by decide)
  | point textEq =>
    rw [textEq]
    exact atClosing_eq_false standard (by decide) (fun same => absurd same (by decide))
  | update starts =>
    cases updateOp?_eq_some_iff.mp starts with
    | increment textEq =>
      rw [textEq]
      exact atClosing_eq_false standard (by decide) (fun same => absurd same (by decide))
    | decrement textEq =>
      rw [textEq]
      exact atClosing_eq_false standard (by decide) (by simp)
  | operator starts =>
    cases unaryOp?_eq_some_iff.mp starts with
    | minus _ _ goesOn => exact goesOn
    | plus textEq | complement textEq | negate textEq =>
      rw [textEq]
      exact atClosing_eq_false standard (by decide) (fun same => absurd same (by decide))

/-- Where an operand begins after blanks and comments, no expression ends after the blanks. -/
theorem notEnding_skipBlanks {comments : List Comment}
    (before : TemplateLang.trivia cursor = .ok (comments, start)) (notEnding : NotEnding start) :
    NotEnding cursor.skipBlanks := by
  intro c isIn
  rw [Bool.eq_false_iff]
  intro isAt
  have settled : cursor.skipBlanks.Settled := by
    simp only [List.mem_cons, List.not_mem_nil, or_false] at isIn
    rcases isIn with rfl | rfl | rfl <;> exact settled_of_isAt isAt (by decide) (by decide)
  have same := trivia_of_settled settled (trivia_skipBlanks.mpr before)
  rw [← same, notEnding c isIn] at isAt
  exact Bool.noConfusion isAt

/-! ## Refusals -/

/-- Where no primary expression begins: at a reserved word, or at no word and no literal. -/
structure NoPrimary (cursor : Cursor) : Prop where
  noParen : cursor.isAt ['('] = false
  noBracket : cursor.isAt ['['] = false
  noWord : ∀ word, cursor.peekWord? = some word →
    isReserved word = true ∧ word ∉ ["null", "undefined", "true", "false"]
  noLiteral : cursor.peekWord? = none →
    Literal.quote? cursor = none ∧ Literal.number cursor = .absent

theorem NoPrimary.refused (noPrimary : NoPrimary cursor) :
    ∃ fault span, ∀ inner, primary inner setting cursor = .error (.soft fault span) := by
  cases atWord : cursor.peekWord? with
  | some word =>
    rcases noPrimary.noWord word atWord with ⟨reserved, noConstant⟩
    simp only [List.mem_cons, List.not_mem_nil, or_false, not_or] at noConstant
    rcases noConstant with ⟨notNull, notUndefined, notTrue, notFalse⟩
    refine ⟨.reservedWord word, cursor.spanTo cursor.skipWord, fun inner => ?_⟩
    unfold primary
    simp only [noPrimary.noParen, noPrimary.noBracket, atWord, wordExpr, notNull, notUndefined,
      notTrue, notFalse, reserved, Bool.false_eq_true, if_false, if_true]
  | none =>
    rcases noPrimary.noLiteral atWord with ⟨noQuote, noNumber⟩
    refine ⟨.expressionExpected cursor.rest.head?, cursor.nextSpan, fun inner => ?_⟩
    unfold primary
    simp only [noPrimary.noParen, noPrimary.noBracket, atWord, literal, noQuote, noNumber,
      Bool.false_eq_true, if_false, Reading.ofScan]
    rfl

theorem NoPrimary.blanked (noPrimary : NoPrimary cursor)
    (blanked : Blanked cursor.rest cursor'.rest) : NoPrimary cursor' where
  noParen := by rw [isAt_blanked blanked (by decide) (by decide), noPrimary.noParen]
  noBracket := by rw [isAt_blanked blanked (by decide) (by decide), noPrimary.noBracket]
  noWord := by rw [peekWord?_blanked blanked]; exact noPrimary.noWord
  noLiteral := by
    rw [peekWord?_blanked blanked, quote?_blanked blanked, Literal.number_eq_absent,
      blanked.announced_eq, blanked.startsDecimal_eq, ← Literal.number_eq_absent]
    exact noPrimary.noLiteral

theorem noPrimary_of_soft {inner : Inner} {fault : Fault} {span : Span}
    (failed : primary inner setting cursor = .error (.soft fault span)) : NoPrimary cursor := by
  unfold primary at failed
  split at failed
  · rcases bind_eq_error failed with failed | ⟨⟨expr, next⟩, -, failed⟩
    · exact absurd failed commit_ne_soft
    · rcases bind_eq_error failed with failed | ⟨after, -, failed⟩
      · exact absurd failed requireChar_ne_soft
      · simp at failed
  · rename_i noParen
    split at failed
    · rcases bind_eq_error failed with failed | ⟨⟨items, next⟩, -, failed⟩
      · exact absurd failed (rounds_ne_soft (listRound_ne_soft inner setting ']') _ _ _ _ _)
      · simp at failed
    · rename_i noBracket
      rw [Bool.not_eq_true] at noParen noBracket
      split at failed
      · rename_i word atWord
        refine ⟨noParen, noBracket, ?_, fun none => by simp [none] at atWord⟩
        intro word' atWord'
        rcases Option.some.inj (atWord.symm.trans atWord') with rfl
        unfold wordExpr at failed
        dsimp only at failed
        split at failed
        · simp at failed
        split at failed
        · simp at failed
        split at failed
        · simp at failed
        split at failed
        · simp at failed
        split at failed
        · rename_i notNull notUndefined notTrue notFalse reserved
          exact ⟨reserved, by simp [notNull, notUndefined, notTrue, notFalse]⟩
        · simp at failed
      · rename_i noWord
        refine ⟨noParen, noBracket, fun word atWord => by simp [atWord] at noWord, fun _ => ?_⟩
        unfold literal at failed
        split at failed
        · rename_i quote isQuote
          rw [bind_eq_soft (by simp)] at failed
          cases scanned : Literal.string cursor with
          | absent => simp [Literal.string_eq_absent.mp scanned] at isQuote
          | found | broken => simp [scanned, Reading.ofScan] at failed
        · rename_i noQuote
          rw [bind_eq_soft (by simp)] at failed
          refine ⟨noQuote, ?_⟩
          cases scanned : Literal.number cursor with
          | absent => rfl
          | found | broken => simp [scanned, Reading.ofScan] at failed

/-- Arguments end in twins alike. -/
theorem Refused.twin (refused : Refused setting cursor)
    (standard : setting.tags = Delimiters.standard) (twin : Twin gap true cursor cursor') :
    Refused setting cursor' := by
  rcases refused with ⟨fault, span, failed⟩
  rcases unary_eq_soft.mp (failed (innerOf 0)) with
    ⟨room, comments, start, someRoom, before, noOperator, noUpdate, failed⟩
  rcases twin.trivia before with ⟨comments', start', before', twin', -⟩
  have blanked := twin'.blanked
  rcases ((noPrimary_of_soft failed).blanked blanked).refused with ⟨fault', span', failed'⟩
  refine ⟨fault', span', fun inner => unary_eq_soft.mpr
    ⟨room, comments', start', someRoom, before', ?_, ?_, failed' inner⟩⟩
  · exact (unaryOp?_blanked standard blanked).trans noOperator
  · exact (updateOp?_blanked standard blanked).trans noUpdate

end Grammar

end TemplateLang
