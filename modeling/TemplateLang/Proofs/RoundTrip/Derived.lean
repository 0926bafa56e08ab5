import TemplateLang.Proofs.RoundTrip.Fitting

/-!
# Whatever is read fits

Every expression that the grammar reads fits the layer that reads it: if it is clear, it can
be read back from its printed text.  This is an induction over derivations.  Besides that it
fits, each layer tells what the next one asks for: that neither a blank nor a comment stands
at its end, that no operator goes on there, and that an operand with a sign begins with it.
-/

namespace TemplateLang

open Cursor Print

/-! ## Blanks, comments and words -/

/-- Blanks and comments are read up to where neither begins, and comments end where they are
closed first. -/
theorem settled_of_trivia {cursor next : Cursor} {comments : List Comment}
    (read : trivia cursor = .ok (comments, next)) :
    next.Settled ∧ ∀ c ∈ comments, c.Closed := by
  obtain ⟨between, settled⟩ := trivia_eq_ok.mp read
  refine ⟨settled, ?_⟩
  clear read settled
  induction between with
  | here => simp
  | blank _ _ _ ih => exact ih
  | @comment cursor middle next comment comments found _ ih =>
    intro c isIn
    rcases List.mem_cons.mp isIn with rfl | isIn
    · obtain ⟨body, after, -, cut, -, rfl⟩ := Literal.comment_eq_found.mp found
      change ¬ Literal.commentClosing <:+: (String.ofList body).toList
      rw [String.toList_ofList]
      exact not_infix_of_cutBefore?_eq_some (by decide) cut
    · exact ih c isIn

theorem isWordShaped_of_peekWord? {cursor : Cursor} {word : String}
    (atWord : cursor.peekWord? = some word) : isWordShaped word.toList = true := by
  unfold peekWord? at atWord
  split at atWord
  · simp at atWord
  · rename_i notEmpty
    obtain rfl := Option.some.inj atWord
    rw [String.toList_ofList]
    unfold Cursor.word at notEmpty ⊢
    split
    · rename_i c rest restEq
      by_cases starts : isWordStart c = true
      · rw [if_pos starts, restEq, List.takeWhile_cons,
          if_pos (isWordChar_iff.mpr (.inl starts))]
        simp [isWordShaped, starts]
      · simp [restEq, starts] at notEmpty
    · rename_i restEq
      simp [restEq] at notEmpty

namespace Grammar

variable {setting : Setting} {cursor next : Cursor} {comments leading trailing : List Comment}

theorem closedNote_of_trivia {start middle : Cursor} {span : Span}
    (before : trivia cursor = .ok (leading, start)) (after : trivia middle = .ok (trailing, next)) :
    ClosedNote ⟨span, leading, trailing⟩ :=
  ⟨(settled_of_trivia before).2, (settled_of_trivia after).2⟩

/-! ## What each layer tells -/

/-- No operator of some tiers goes on at a place. -/
def NoInfix (setting : Setting) (levels : List (List InfixOp)) (cursor : Cursor) : Prop :=
  ∀ tier ∈ levels, infixOp? setting tier cursor.rest = none

/-- A sign stands at a place, after blanks and comments. -/
def SignedAt (cursor : Cursor) : Prop :=
  ∃ comments start, trivia cursor = .ok (comments, start) ∧
    (start.rest.head? = some '+' ∨ start.rest.head? = some '-')

/-- An update before comments are attached to it. -/
structure FitsUpdate (expr : Expr) (cursor next : Cursor) : Prop where
  bare : expr.note.isBare = true
  tight : isTight expr = true
  signed : isSigned expr = true →
    next.Settled ∧ (cursor.rest.head? = some '+' ∨ cursor.rest.head? = some '-')
  fits : ∀ note, ClosedNote note → (isSigned expr = true → note.trailing = []) →
    FitsOperands .unary (expr.withNote note)

/-- What is read fits, and ends where its layer ends. -/
def Goal.FitsLayer (setting : Setting) (cursor next : Cursor) : Goal → Prop
  | .primary expr | .suffixed expr => FitsSuffixed expr
  | .suffixes head expr => FitsSuffixed head → FitsSuffixed expr
  | .update expr => FitsUpdate expr cursor next
  | .unary expr =>
    next.Settled ∧ FitsOperands .unary expr ∧ isTight expr = true ∧
      (isSigned expr = true → SignedAt cursor)
  | .infixes tier tighter left expr =>
    tier :: tighter <:+ tiers → FitsOperands (.joined (tier :: tighter)) left →
      cursor.Settled → NoInfix setting tighter cursor →
        next.Settled ∧ NoInfix setting (tier :: tighter) next ∧
          FitsOperands (.joined (tier :: tighter)) expr
  | .joined levels expr =>
    levels <:+ tiers →
      next.Settled ∧ NoInfix setting levels next ∧ FitsOperands (.joined levels) expr
  | .conditional expr =>
    next.Settled ∧ NoInfix setting tiers next ∧ FitsOperands .conditional expr
  | .items _ exprs => ∀ expr ∈ exprs, Argument expr
  | .arguments exprs =>
    cursor.Settled →
      next.Settled ∧ FitsArguments exprs ∧
        (∀ first ∈ exprs.head?, isSigned first = true → SignedAt cursor) ∧
        (atArgument setting next.rest = false → atArgument setting cursor.rest = true → exprs ≠ [])
  | .command expr | .pipeline expr =>
    atArgument setting next.rest = false → next.Settled ∧ FitsPipeline expr
  | .pipes value expr =>
    atArgument setting next.rest = false →
      atArgument setting cursor.rest = false ∧
        (cursor.Settled → FitsPipeline value → next.Settled ∧ FitsPipeline expr)

/-! ## Primary expressions -/

theorem fitsSuffixed_of_wordExpr {word : String} {expr : Expr}
    (starts : cursor.peekWord? = some word) (read : wordExpr cursor word = .ok (expr, next)) :
    FitsSuffixed expr := by
  cases (wordExpr_eq_ok.mp read).2 with
  | null => exact fitsSuffixed_leaf rfl rfl rfl trivial fun _ _ bare => .null bare
  | undefined => exact fitsSuffixed_leaf rfl rfl rfl trivial fun _ _ bare => .undefined bare
  | yes | no => exact fitsSuffixed_leaf rfl rfl rfl trivial fun _ _ bare => .boolean bare
  | identifier free =>
    exact fitsSuffixed_leaf rfl rfl rfl trivial fun _ _ bare =>
      .identifier bare (isWordShaped_of_peekWord? starts) free

theorem fitsSuffixed_of_literal {expr : Expr} (read : literal cursor = .ok (expr, next)) :
    FitsSuffixed expr := by
  rcases literal_eq_ok.mp read with ⟨value, quote, -, rfl⟩ | ⟨-, value, found, rfl⟩
  · exact fitsSuffixed_leaf rfl rfl rfl trivial fun _ _ bare => .text bare
  · have isUnsigned := Literal.unsigned_of_number found
    exact fitsSuffixed_leaf rfl rfl rfl isUnsigned fun _ _ bare => .number bare isUnsigned.rereads

theorem readKey_of_fieldKey {key : FieldKey} (read : fieldKey cursor = .ok (key, next)) :
    ReadKey key := by
  cases key with
  | position => exact .position (unsigned_of_fieldKey read)
  | name word =>
    rcases fieldKey_eq_ok.mp read with ⟨_, atWord, ⟨⟩, -⟩ | ⟨-, -, ⟨⟩, -⟩
    exact .name (isWordShaped_of_peekWord? atWord)

/-! ## Signs -/

/-- A sign where an argument may begin is an operator between operands. -/
theorem infixOp?_ne_none_of_sign
    (sign : cursor.rest.head? = some '+' ∨ cursor.rest.head? = some '-')
    (starts : atArgument setting cursor.rest = true) :
    infixOp? setting [.binary .add, .binary .subtract] cursor.rest ≠ none := by
  have noClosing : setting.atClosing cursor.rest = false := by
    rw [Bool.eq_false_iff]
    intro closes
    unfold atArgument at starts
    rw [if_pos closes] at starts
    exact Bool.false_ne_true starts
  unfold infixOp?
  rw [noClosing]
  rcases sign with plus | minus
  · obtain ⟨rest, restEq⟩ := List.head?_eq_some_iff.mp plus
    rw [restEq]
    simp [Literal.commentOpening, InfixOp.symbol, BinaryOp.symbol]
  · obtain ⟨rest, restEq⟩ := List.head?_eq_some_iff.mp minus
    rw [restEq]
    simp [Literal.commentOpening, InfixOp.symbol, BinaryOp.symbol]

theorem updateOp?_starts {op : UpdateOp} (starts : updateOp? setting cursor.rest = some op) :
    cursor.rest.head? = some '+' ∨ cursor.rest.head? = some '-' := by
  cases updateOp?_eq_some_iff.mp starts with
  | increment restEq => exact .inl (by rw [restEq]; rfl)
  | decrement restEq => exact .inr (by rw [restEq]; rfl)

/-- A signed operation begins with its sign. -/
theorem unaryOp?_starts {op : UnaryOp} {argument : Expr} {note : Note}
    (starts : unaryOp? setting cursor.rest = some op)
    (signed : isSigned (.unary op argument note) = true) :
    cursor.rest.head? = some '+' ∨ cursor.rest.head? = some '-' := by
  cases unaryOp?_eq_some_iff.mp starts with
  | plus restEq => exact .inl (by rw [restEq]; rfl)
  | minus restEq => exact .inr (by rw [restEq]; rfl)
  | complement | negate => simp [isSigned] at signed

/-! ## Operands -/

theorem fitsUpdate_suffixed {expr : Expr} (operand : FitsSuffixed expr) :
    FitsUpdate expr cursor next where
  bare := operand.bare
  tight := operand.tight
  signed signed := by simp [operand.unsigned] at signed
  fits _ closed _ := fitsOperands_operand operand closed

theorem fitsUpdate_before {op : UpdateOp} {target : Expr} {note : Note} {start : Cursor}
    (bare : note.isBare = true) (starts : updateOp? setting cursor.rest = some op)
    (operand : Goal.FitsLayer setting start next (.unary target))
    (assignable : target.isAssignable = true) :
    FitsUpdate (.update op .before target note) cursor next where
  bare := bare
  tight := rfl
  signed _ := ⟨operand.1, updateOp?_starts starts⟩
  fits _ closed noTrailing :=
    fitsOperands_updateBefore operand.2.1.fits closed (noTrailing rfl) assignable

theorem fitsUpdate_after {op : UpdateOp} {target : Expr} {note : Note} (bare : note.isBare = true)
    (operand : FitsSuffixed target) (assignable : target.isAssignable = true) :
    FitsUpdate (.update op .after target note) cursor next where
  bare := bare
  tight := rfl
  signed signed := by simp [isSigned] at signed
  fits _ closed _ := fitsOperands_updateAfter operand closed assignable

theorem fits_unary_operand {expr : Expr} {start middle : Cursor}
    (before : trivia cursor = .ok (leading, start)) (operand : FitsUpdate expr start middle)
    (after : trivia middle = .ok (trailing, next)) :
    Goal.FitsLayer setting cursor next
      (.unary ((expr.addTrailing trailing).addLeading leading)) := by
  rw [Expr.addComments_eq operand.bare]
  refine ⟨(settled_of_trivia after).1, operand.fits _ (closedNote_of_trivia before after) ?_, ?_,
    ?_⟩
  · intro signed
    have settled := (operand.signed signed).1
    rw [settled.trivia] at after
    exact (Prod.mk.inj (Except.ok.inj after)).1.symm
  · rw [Expr.isTight_withNote]
    exact operand.tight
  · intro signed
    rw [Expr.isSigned_withNote] at signed
    exact ⟨leading, start, before, (operand.signed signed).2⟩

theorem fits_unary_operator {op : UnaryOp} {argument : Expr} {span : Span} {inner : Setting}
    {start operandStart : Cursor} (before : trivia cursor = .ok (leading, start))
    (starts : unaryOp? inner start.rest = some op)
    (operand : Goal.FitsLayer inner operandStart next (.unary argument)) :
    Goal.FitsLayer setting cursor next
      (.unary ((Expr.unary op argument (Note.at span)).addLeading leading)) := by
  have closed : ClosedNote ⟨span, leading ++ [], []⟩ := by
    rw [List.append_nil]
    exact ⟨(settled_of_trivia before).2, by simp⟩
  refine ⟨operand.1, fitsOperands_operator operand.2.1.fits closed rfl, rfl, fun signed => ?_⟩
  exact ⟨leading, start, before, unaryOp?_starts starts signed⟩

/-! ## Commands and pipes -/

theorem not_argument_of_isAt {c : Char} (isAt : cursor.isAt [c] = true)
    (isEnd : [')', ']'].contains c = true) : atArgument setting cursor.rest = false := by
  obtain ⟨rest, restEq⟩ := isAt_singleton_iff.mp isAt
  refine (endsCommand_of_char restEq ?_).noArgument
  simp only [List.contains_eq_mem, List.mem_cons, List.not_mem_nil, or_false,
    decide_eq_true_eq] at isEnd ⊢
  exact isEnd.imp_right .inl

theorem fits_command {head : Expr} {extra : List Expr} {middle : Cursor}
    (start : Goal.FitsLayer setting cursor middle (.conditional head))
    (goesOn : (head.isCallable && atArgument setting middle.rest) = true)
    (arguments : Goal.FitsLayer setting middle next (.arguments extra)) :
    Goal.FitsLayer setting cursor next (.command (head.command extra)) := by
  intro ends
  obtain ⟨settled, noInfix, whole⟩ := start
  obtain ⟨callable, starts⟩ := Bool.and_eq_true_iff.mp goesOn
  obtain ⟨settledNext, content, signed, someArguments⟩ := arguments settled
  refine ⟨settledNext, fitsPipeline_command whole callable content (someArguments ends starts) ?_⟩
  intro first isFirst
  rw [Bool.eq_false_iff]
  intro isSigned
  obtain ⟨_, start, read, sign⟩ := signed first isFirst isSigned
  obtain rfl := trivia_of_settled settled read
  exact infixOp?_ne_none_of_sign sign starts (noInfix _ (by decide))

/-! ## All rules -/

/-- Whatever a layer reads fits it. -/
theorem Derives.fitsLayer {goal : Goal} (derived : Derives setting goal cursor next) :
    goal.FitsLayer setting cursor next := by
  induction derived with
  | paren _ _ closes ih =>
    exact fitsSuffixed_paren rfl (ih (not_argument_of_isAt closes (by decide))).2.fits
  | array _ _ ih => exact fitsSuffixed_array rfl ih
  | word _ _ starts read => exact fitsSuffixed_of_wordExpr starts read
  | literal _ _ _ read => exact fitsSuffixed_of_literal read
  | noSuffix => exact id
  | field _ read _ ih =>
    exact fun head => ih (fitsSuffixed_field rfl head (readKey_of_fieldKey read))
  | item _ _ closes _ ihKey ih =>
    exact fun head => ih (fitsSuffixed_item rfl head
      (ihKey (not_argument_of_isAt closes (by decide))).2)
  | call _ _ _ ihArguments ih =>
    exact fun head => ih (fitsSuffixed_call rfl head.bare head.fitting ihArguments)
  | suffixed _ _ ihStart ih => exact ih ihStart
  | updateBefore starts _ assignable ih => exact fitsUpdate_before rfl starts ih assignable
  | updateAfter _ _ _ assignable ih => exact fitsUpdate_after rfl ih assignable
  | noUpdate _ _ _ ih => exact fitsUpdate_suffixed ih
  | operator _ before starts _ ih => exact fits_unary_operator before starts ih
  | operand _ before _ _ after ih => exact fits_unary_operand before ih after
  | noInfix ends =>
    intro inTiers left settled noTighter
    refine ⟨settled, fun tier isIn => ?_, left⟩
    rcases List.mem_cons.mp isIn with rfl | isIn
    · exact ends
    · exact noTighter tier isIn
  | @infixMore setting tier tighter op left right expr cursor middle next follows _ _ ihOperand
    ih =>
    intro inTiers leftFits settled noTighter
    obtain ⟨settledMiddle, noInfix, rightFits⟩ :=
      ihOperand ((List.suffix_cons tier tighter).trans inTiers)
    refine ih inTiers ?_ settledMiddle noInfix
    rw [InfixOp.join_eq]
    exact fitsOperands_node rfl inTiers (mem_of_infixOp? follows) leftFits rightFits
  | tightest _ ih =>
    intro _
    exact ⟨ih.1, fun _ isIn => absurd isIn List.not_mem_nil, ih.2.1.joined⟩
  | @tier setting tier tighter left expr cursor middle next _ _ ihStart ih =>
    intro inTiers
    obtain ⟨settled, noInfix, leftFits⟩ :=
      ihStart ((List.suffix_cons tier tighter).trans inTiers)
    exact ih inTiers leftFits.looser settled noInfix
  | test _ _ ih =>
    obtain ⟨settled, noInfix, whole⟩ := ih (List.suffix_refl _)
    exact ⟨settled, noInfix, whole.conditional⟩
  | choice _ _ _ _ _ ihTest ihFirst ihSecond =>
    exact ⟨ihSecond.1, ihSecond.2.1,
      fitsOperands_choice rfl (ihTest (List.suffix_refl _)).2.2 ihFirst.2.2 ihSecond.2.2⟩
  | itemsEnd => exact fun _ isIn => absurd isIn List.not_mem_nil
  | itemsLast _ _ _ _ ih =>
    intro expr isIn
    obtain rfl := List.mem_singleton.mp isIn
    exact ih.2.2.argument
  | itemsMore _ _ _ _ ihItem ih =>
    intro expr isIn
    rcases List.mem_cons.mp isIn with rfl | isIn
    · exact ihItem.2.2.argument
    · exact ih expr isIn
  | noArgument ends =>
    intro settled
    refine ⟨settled, ⟨by simp, by simp⟩, by simp, fun _ starts => ?_⟩
    exact absurd (starts.symm.trans ends) (by simp)
  | refused starts =>
    intro settled
    refine ⟨settled, ⟨by simp, by simp⟩, by simp, fun ends _ => ?_⟩
    exact absurd (starts.symm.trans ends) (by simp)
  | argument _ _ _ ihOperand ih =>
    intro settled
    obtain ⟨settledMiddle, operand, tight, signed⟩ := ihOperand
    obtain ⟨settledNext, others, -, -⟩ := ih settledMiddle
    refine ⟨settledNext, ⟨?_, ?_⟩, ?_, fun _ _ => List.cons_ne_nil _ _⟩
    · intro expr isIn
      rcases List.mem_cons.mp isIn with rfl | isIn
      · exact operand
      · exact others.operands expr isIn
    · intro expr isIn
      rcases List.mem_cons.mp isIn with rfl | isIn
      · exact tight
      · exact others.tight expr isIn
    · intro first isFirst
      obtain rfl := Option.some.inj isFirst
      exact signed
  | noCommand _ _ ih => exact fun _ => ⟨ih.1, ih.2.2.pipeline⟩
  | command _ goesOn _ ih ihArguments => exact fits_command ih goesOn ihArguments
  | noPipe => exact fun ends => ⟨ends, fun settled value => ⟨settled, value⟩⟩
  | pipe follows before _ after _ _ ihCallee ihArguments ih =>
    intro ends
    refine ⟨(endsCommand_of_pipe follows).noArgument, fun _ value => ?_⟩
    obtain ⟨settled, content, -, -⟩ := ihArguments (settled_of_trivia after).1
    exact (ih ends).2 settled
      (fitsPipeline_pipeInto value ihCallee (closedNote_of_trivia before after) content)
  | pipeline _ _ ihHead ih =>
    intro ends
    obtain ⟨noArgument, pipes⟩ := ih ends
    obtain ⟨settled, head⟩ := ihHead noArgument
    exact pipes settled head

end Grammar

end TemplateLang
