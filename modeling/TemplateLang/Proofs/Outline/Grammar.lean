import TemplateLang.Proofs.Outline.Passing

/-!
# The grammar follows a skim

What is derived between two places is skimmed between them, and the tokens that are
found are its outline.  For an expression these are its comments.  A suffix, an operator
or a pipe adds comments to those of what it is applied to.
-/

namespace TemplateLang

namespace Grammar

open Cursor

variable {setting : Setting}

/-! ## Operators -/

theorem silent_updateOp (standard : setting.tags = Delimiters.standard) {cursor : Cursor}
    {op : UpdateOp} (starts : updateOp? setting cursor.rest = some op) :
    Silent cursor (cursor.skip 2) := by
  cases updateOp?_eq_some_iff.mp starts with
  | increment restEq =>
    exact silent_symbol ['+', '+'] (isAt_iff.mpr ⟨_, restEq.symm⟩) (by decide)
  | @decrement rest restEq goesOn =>
    rw [closes_of_tags standard] at goesOn
    have first : Silent cursor (cursor.skip 1) := by
      refine silent_minus restEq ?_
      rw [restEq, Bool.eq_false_iff, Ne, closes_iff]
      simp
    have restEq' : (cursor.skip 1).rest = '-' :: rest := by simp [restEq]
    have second := silent_minus restEq' (by rwa [restEq'])
    rw [skip_skip] at second
    exact first.trans second

theorem silent_unaryOp (standard : setting.tags = Delimiters.standard) {cursor : Cursor}
    {op : UnaryOp} (starts : unaryOp? setting cursor.rest = some op) :
    Silent cursor (cursor.skip 1) := by
  cases unaryOp?_eq_some_iff.mp starts with
  | plus restEq | complement restEq | negate restEq => exact silent_calm restEq (by decide)
  | minus restEq _ goesOn => exact silent_minus restEq (closes_of_tags standard _ ▸ goesOn)

theorem silent_infixOp (standard : setting.tags = Delimiters.standard) {cursor : Cursor}
    {tier : List InfixOp} {op : InfixOp} (follows : infixOp? setting tier cursor.rest = some op) :
    Silent cursor (cursor.skip op.symbol.length) := by
  obtain ⟨noClosing, noComment, -⟩ := infixOp?_eq_some_iff.mp follows
  rw [closes_of_tags standard] at noClosing
  obtain ⟨rest, restEq⟩ := symbol_of_infixOp? follows
  rw [← String.length_toList]
  by_cases calm : op.symbol.toList.all isCalm = true
  · exact silent_symbol _ (isAt_iff.mpr ⟨rest, restEq⟩) calm
  · -- Only a minus and a slash are not calm.
    have single : op.symbol.toList = ['-'] ∨ op.symbol.toList = ['/'] := by
      revert calm
      rcases op with op | op <;> cases op <;> decide
    rcases single with same | same
    · rw [same] at restEq ⊢
      exact silent_minus restEq.symm noClosing
    · rw [same] at restEq ⊢
      refine .single (skimStep_plain restEq.symm noClosing noComment ?_)
      simp [Literal.quote?, ← restEq]

theorem silent_isAt {cursor : Cursor} {c : Char} (isAt : cursor.isAt [c] = true)
    (calm : isCalm c = true) : Silent cursor (cursor.skip 1) := by
  obtain ⟨rest, starts⟩ := isAt_singleton_iff.mp isAt
  exact silent_calm starts calm

theorem silent_pipe {cursor : Cursor} (follows : atPipe setting cursor.rest = true) :
    Silent cursor (cursor.skip 1) := by
  obtain ⟨rest, restEq, -⟩ := atPipe_iff.mp follows
  exact silent_calm restEq (by decide)

/-! ## Leaves -/

theorem comments_of_wordExpr {cursor next : Cursor} {word : String} {expr : Expr}
    (read : wordExpr cursor word = .ok (expr, next)) :
    expr.note.isBare = true ∧ expr.comments = [] := by
  cases (wordExpr_eq_ok.mp read).2 with
  | null | undefined | yes | no | identifier => exact ⟨rfl, rfl⟩

theorem silent_literal {cursor next : Cursor} {expr : Expr}
    (read : literal cursor = .ok (expr, next)) :
    expr.note.isBare = true ∧ expr.comments = [] ∧ Silent cursor next := by
  rcases literal_eq_ok.mp read with ⟨value, quote, found, rfl⟩ | ⟨-, value, found, rfl⟩
  · exact ⟨rfl, rfl, silent_string found⟩
  · exact ⟨rfl, rfl, silent_number found⟩

theorem silent_fieldKey {cursor next : Cursor} {key : FieldKey}
    (read : fieldKey cursor = .ok (key, next)) : Silent cursor next := by
  rcases fieldKey_eq_ok.mp read with ⟨_, -, -, rfl⟩ | ⟨-, -, -, rfl⟩
  · exact silent_skipWord cursor
  · exact silent_digits cursor

/-! ## Expressions -/

/-- What is derived between two places is skimmed with its comments. -/
def Goal.Skimmed (cursor next : Cursor) : Goal → Prop
  | .primary expr | .suffixed expr | .update expr =>
    expr.note.isBare = true ∧ Finds cursor expr.comments next
  | .unary expr | .joined _ expr | .conditional expr | .command expr | .pipeline expr =>
    Finds cursor expr.comments next
  | .suffixes head expr =>
    (head.note.isBare = true → expr.note.isBare = true) ∧
      ∃ more, expr.comments = head.comments ++ more ∧ Finds cursor more next
  | .infixes _ _ head expr | .pipes head expr =>
    ∃ more, expr.comments = head.comments ++ more ∧ Finds cursor more next
  | .items close exprs => isCalm close = true → Finds cursor (exprComments exprs) next
  | .arguments exprs => Finds cursor (exprComments exprs) next

/-- A note without comments adds none. -/
@[simp]
theorem around_at (span : Span) (inside : List Comment) :
    (Note.at span).around inside = inside := by
  simp [Note.around, Note.at]

theorem comments_call (callee : Expr) (arguments : List Expr) (span : Span) :
    (Expr.call callee arguments false (Note.at span)).comments =
      callee.comments ++ exprComments arguments := by
  cases arguments <;> simp [Expr.comments]

theorem comments_join (op : InfixOp) (left right : Expr) :
    (op.join left right).comments = left.comments ++ right.comments := by
  cases op <;> simp [InfixOp.join, Expr.comments]

theorem Derives.skimmed {goal : Goal} {cursor next : Cursor}
    (derived : Derives setting goal cursor next) (standard : setting.tags = Delimiters.standard) :
    goal.Skimmed cursor next := by
  induction derived with
  | paren opens _ closed content =>
    refine ⟨rfl, ?_⟩
    rw [Expr.comments, around_at]
    exact ((silent_isAt opens (by decide)).finds (content standard)).silent
      (silent_isAt closed (by decide))
  | array opens _ content =>
    refine ⟨rfl, ?_⟩
    rw [Expr.comments, around_at]
    exact (silent_isAt opens (by decide)).finds (content standard (by decide))
  | word _ _ _ read =>
    obtain ⟨bare, none⟩ := comments_of_wordExpr read
    rw [reaches_of_wordExpr read]
    exact ⟨bare, none ▸ silent_skipWord _⟩
  | literal _ _ _ read =>
    obtain ⟨bare, none, passed⟩ := silent_literal read
    exact ⟨bare, none ▸ passed⟩
  | noSuffix => exact ⟨id, [], by simp, Silent.refl _⟩
  | field dot read _ others =>
    obtain ⟨keeps, more, commentsEq, found⟩ := others standard
    refine ⟨fun _ => keeps rfl, more, ?_, ?_⟩
    · rw [commentsEq, Expr.comments, suffixNote, around_at]
    · exact ((silent_isAt dot (by decide)).trans (silent_fieldKey read)).finds found
  | @item setting head key expr cursor middle next opens _ closed _ content others =>
    obtain ⟨keeps, more, commentsEq, found⟩ := others standard
    refine ⟨fun _ => keeps rfl, key.comments ++ more, ?_, ?_⟩
    · rw [commentsEq, Expr.comments, suffixNote, around_at, List.append_assoc]
    · have inside := (silent_isAt opens (by decide)).finds (content standard)
      exact (inside.silent (silent_isAt closed (by decide))).append found
  | @call setting head expr arguments cursor middle next opens _ _ content others =>
    obtain ⟨keeps, more, commentsEq, found⟩ := others standard
    refine ⟨fun _ => keeps rfl, exprComments arguments ++ more, ?_, ?_⟩
    · rw [commentsEq, suffixNote, comments_call, List.append_assoc]
    · have inside := (silent_isAt opens (by decide)).finds (content standard (by decide))
      exact inside.append found
  | suffixed _ _ start others =>
    obtain ⟨bare, found⟩ := start standard
    obtain ⟨keeps, more, commentsEq, foundMore⟩ := others standard
    exact ⟨keeps bare, commentsEq ▸ found.append foundMore⟩
  | updateBefore starts _ _ operand =>
    refine ⟨rfl, ?_⟩
    rw [Expr.comments, around_at]
    exact (silent_updateOp standard starts).finds (operand standard)
  | updateAfter _ _ follows _ operand =>
    refine ⟨rfl, ?_⟩
    rw [Expr.comments, around_at]
    exact (operand standard).2.silent (silent_updateOp standard follows)
  | noUpdate _ _ _ operand => exact operand standard
  | operator _ before starts _ operand =>
    change Finds _ _ _
    rw [Expr.comments_addLeading, Expr.comments, around_at]
    exact (finds_trivia before).append
      ((silent_unaryOp standard starts).finds (operand standard))
  | operand _ before _ _ after operand =>
    change Finds _ _ _
    rw [Expr.comments_addLeading, Expr.comments_addTrailing]
    exact (finds_trivia before).append ((operand standard).2.append (finds_trivia after))
  | noInfix => exact ⟨[], by simp, Silent.refl _⟩
  | infixMore follows _ _ operand others =>
    obtain ⟨more, commentsEq, found⟩ := others standard
    refine ⟨_, ?_, ((silent_infixOp standard follows).finds (operand standard)).append found⟩
    rw [commentsEq, comments_join, List.append_assoc]
  | tightest _ operand => exact operand standard
  | tier _ _ start others =>
    obtain ⟨more, commentsEq, found⟩ := others standard
    change Finds _ _ _
    rw [commentsEq]
    exact (start standard).append found
  | test _ _ start => exact start standard
  | choice _ question _ colon _ start first second =>
    change Finds _ _ _
    rw [Expr.comments, around_at]
    have afterTest := (start standard).silent (silent_isAt question (by decide))
    have afterFirst :=
      (afterTest.append (first standard)).silent (silent_isAt colon (by decide))
    exact afterFirst.append (second standard)
  | itemsEnd closed =>
    intro calm
    exact (silent_skipBlanks _).trans (silent_isAt closed calm)
  | itemsLast _ _ _ closed content =>
    intro calm
    rw [exprComments, exprComments, List.append_nil]
    exact ((silent_skipBlanks _).finds (content standard)).silent (silent_isAt closed calm)
  | itemsMore _ _ comma _ content others =>
    intro calm
    have first := (silent_skipBlanks _).finds (content standard)
    exact (first.silent (silent_isAt comma (by decide))).append (others standard calm)
  | noArgument | refused => exact Silent.refl _
  | argument _ _ _ operand others => exact (operand standard).append (others standard)
  | noCommand _ _ start => exact start standard
  | command _ _ _ start arguments =>
    change Finds _ _ _
    rw [Expr.comments_command]
    exact (start standard).append (arguments standard)
  | noPipe => exact ⟨[], by simp, Silent.refl _⟩
  | pipe follows before _ after _ _ callee arguments others =>
    obtain ⟨bare, foundCallee⟩ := callee standard
    obtain ⟨more, commentsEq, found⟩ := others standard
    have segment := ((silent_pipe follows).finds (finds_trivia before)).append foundCallee
    have whole := (segment.append (finds_trivia after)).append (arguments standard)
    refine ⟨_, ?_, whole.append found⟩
    rw [commentsEq, Expr.comments_pipeInto, Expr.comments_withNote bare]
    simp [Note.around]
  | pipeline _ _ start others =>
    obtain ⟨more, commentsEq, found⟩ := others standard
    change Finds _ _ _
    rw [commentsEq]
    exact (start standard).append found

/-! ## Templates -/

/-- What is derived between two places of a template is skimmed with its outline.  A
statement lies inside of a tag, and elements and the rest of a block begin outside. -/
def BlockGoal.Skimmed (cursor next : Cursor) : BlockGoal → Prop
  | .elements _ pieces => Skims false cursor (outlineOf pieces) false next
  | .statement whole => Skims true cursor whole.outline true next
  | .branch whole => Skims true cursor whole.outline true next
  | .alternate whole => Skims false cursor whole.outline true next

theorem silent_declaration {cursor next : Cursor} {target : Identifier}
    (declares : declaration? cursor = some (target, next)) : Silent cursor next := by
  obtain ⟨-, -, isAt, rfl⟩ := declaration?_eq_some_iff.mp declares
  exact ((silent_skipWord cursor).trans (silent_skipBlanks _)).trans
    (silent_symbol _ isAt (by decide))

theorem silent_binding {missing : Fault} {cursor next : Cursor} {name : Identifier}
    (binds : binding missing cursor = .ok (name, next)) : Silent cursor next := by
  obtain ⟨-, -, -, rfl⟩ := binding_eq_ok.mp binds
  exact silent_skipWord cursor

theorem silent_indexBinding {cursor next : Cursor} {name : Option Identifier}
    (binds : indexBinding cursor = .ok (name, next)) : Silent cursor next := by
  rcases indexBinding_eq_ok.mp binds with ⟨comma, _, _, read, -, rfl⟩ | ⟨-, -, rfl⟩
  · exact (((silent_isAt comma (by decide)).trans (silent_skipBlanks _)).trans
      (silent_binding read)).trans (silent_skipBlanks _)
  · exact .refl _

theorem silent_requireIn {cursor next : Cursor} (wordIn : requireIn cursor = .ok next) :
    Silent cursor next := by
  obtain ⟨isAt, rfl, -⟩ := requireIn_eq_ok.mp wordIn
  exact silent_symbol _ isAt (by decide)

theorem EndsBody.skims (standard : setting.tags = Delimiters.standard) {cursor next : Cursor}
    {opening : Tag} {word : String} (ends : EndsBody setting cursor opening word next) :
    Skims false cursor opening.outline true next := by
  obtain ⟨-, middle, opens, -, rfl⟩ := ends
  have skimmed := (skims_openingTag standard opens).trans (silent_skipWord middle)
  rwa [List.append_nil] at skimmed

theorem skims_raw (standard : setting.tags = Delimiters.standard) {cursor : Cursor}
    (notDone : cursor.rest ≠ [])
    (noTag : startsWithMark cursor.rest setting.tags.opening.toList = false) :
    Skims false cursor (raw setting cursor).1.outline false (raw setting cursor).2 := by
  have textEq : rawText setting cursor.rest =
      rawText (Setting.initial Delimiters.standard) cursor.rest := by
    simp [rawText, standard, Setting.initial]
  rw [standard] at noTag
  rw [raw_eq, textEq]
  exact .single (by simp [skimStep, skimOutside, notDone, noTag, textAt, Element.outline])

theorem DerivesBlock.skimmed {goal : BlockGoal} {cursor next : Cursor}
    (derived : DerivesBlock setting goal cursor next)
    (standard : setting.tags = Delimiters.standard) : goal.Skimmed cursor next := by
  induction derived with
  | elementsEnd | empty => exact .done
  | @raw setting stops elements cursor next goesOn noTag _ others =>
    have notDone : cursor.rest ≠ [] := by
      rintro atEnd
      simp [atEnd] at goesOn
    exact (skims_raw standard notDone noTag).trans (others standard)
  | tag _ opens _ closed _ content others =>
    change Skims _ _ _ _ _
    rw [outlineOf, Element.outline]
    exact (((skims_openingTag standard opens).trans (content standard)).trans
      (skims_closingTag standard closed)).trans (others standard)
  | assign _ declares _ content =>
    exact (silent_declaration declares).finds (content.skimmed standard)
  | branchStatement _ _ _ _ content => exact content standard
  | loop _ _ _ bindsValue bindsIndex wordIn head closed _ _ ends content =>
    have names := (((silent_skipWord _).trans (silent_skipBlanks _)).trans
      (silent_binding bindsValue)).trans
        ((silent_skipBlanks _).trans (silent_indexBinding bindsIndex))
    have iterable := (names.trans (silent_requireIn wordIn)).finds (head.skimmed standard)
    have toBody := Skims.trans iterable (skims_closingTag standard closed)
    exact (toBody.trans (content standard)).trans (ends.skims standard)
  | breakLoop | continueLoop => exact silent_skipWord _
  | expression _ _ _ content => exact content.skimmed standard
  | branch head closed _ _ _ content others =>
    have test := (silent_skipWord _).finds (head.skimmed standard)
    have toBody := Skims.trans test (skims_closingTag standard closed)
    exact (toBody.trans (content standard)).trans (others standard)
  | done ends => exact ends.skims standard
  | chain ends _ _ _ content =>
    have toBranch := (ends.skims standard).trans (silent_skipBlanks _)
    rw [List.append_nil] at toBranch
    exact toBranch.trans (content standard)
  | otherwise ends _ _ closed _ _ endsAll content =>
    have toClosing := (ends.skims standard).trans (silent_skipBlanks _)
    rw [List.append_nil] at toClosing
    have toBody := toClosing.trans (skims_closingTag standard closed)
    exact (toBody.trans (content standard)).trans (endsAll.skims standard)

end Grammar

end TemplateLang
