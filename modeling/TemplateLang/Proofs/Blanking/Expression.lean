import TemplateLang.Proofs.Blanking.Alike
import TemplateLang.Proofs.Blanking.Operand

/-!
# Expressions with a blank for a comment

Whatever is derived at a place of a source is derived at the twin of that place, and the two
expressions are alike if the comment spares the first.  This is proved for all layers of the
grammar together.  Suffixes, operators and pipes go on from any two alike expressions.
-/

namespace TemplateLang

namespace Grammar

open Cursor

variable {gap : Gap} {setting : Setting} {cursor cursor' next : Cursor}

/-! ## Leaves -/

/-- What is derived at the twin of a place: an alike expression, up to a twin of the end. -/
def Follows (gap : Gap) (setting : Setting) (layer : Expr → Goal) (cursor' next : Cursor)
    (expr : Expr) : Prop :=
  ∃ expr' next', Derives setting (layer expr') cursor' next' ∧ Twin gap true next next' ∧
    expr.Alike gap expr'

/-- A word is the same expression wherever it stands. -/
theorem wordExpr_again {word : String} {expr : Expr}
    (read : wordExpr cursor word = .ok (expr, next)) (cursor' : Cursor) :
    wordExpr cursor' word =
      .ok (expr.withNote (Note.at (cursor'.spanTo cursor'.skipWord)), cursor'.skipWord) := by
  refine wordExpr_eq_ok.mpr ⟨rfl, ?_⟩
  cases (wordExpr_eq_ok.mp read).2 with
  | null => exact .null
  | undefined => exact .undefined
  | yes => exact .yes
  | no => exact .no
  | identifier free => exact .identifier free

theorem literal_twin {expr : Expr} (read : literal cursor = .ok (expr, next))
    (twin : Twin gap true cursor cursor') :
    ∃ expr' next', literal cursor' = .ok (expr', next') ∧ Twin gap true next next' ∧
      expr.Alike gap expr' := by
  rcases literal_eq_ok.mp read with ⟨value, quote, found, rfl⟩ | ⟨noQuote, value, found, rfl⟩
  · rcases Literal.string_found_again found with ⟨text, crosses, again⟩
    rcases twin.crosses crosses (silent_string found) (by simp) with ⟨next', crosses', twin'⟩
    have read' := literal_eq_ok.mpr (.inl ⟨value, quote, again crosses', rfl⟩)
    exact ⟨_, next', read', twin', Expr.alike_of_bare rfl rfl rfl⟩
  · rcases Literal.number_blanked twin.blanked found with ⟨next', found', count, rfl, rfl, -⟩
    have noQuote' := (quote?_blanked twin.blanked).trans noQuote
    have read' := literal_eq_ok.mpr (.inr ⟨noQuote', _, found', rfl⟩)
    exact ⟨_, _, read', twin.skip (silent_number found), Expr.alike_of_bare rfl rfl rfl⟩

theorem fieldKey_twin {key : FieldKey} (read : fieldKey cursor = .ok (key, next))
    (twin : Twin gap true cursor cursor') :
    ∃ next', fieldKey cursor' = .ok (key, next') ∧ Twin gap true next next' := by
  have silent := silent_fieldKey read
  simp only [fieldKey_eq_ok, peekWord?_blanked twin.blanked, decimalDigits_blanked twin.blanked]
  rcases fieldKey_eq_ok.mp read with ⟨word, atWord, rfl, rfl⟩ | ⟨noWord, someDigits, rfl, rfl⟩
  · exact ⟨_, .inl ⟨word, atWord, rfl, rfl⟩, twin.skipWord⟩
  · exact ⟨_, .inr ⟨noWord, someDigits, rfl, rfl⟩, twin.skip silent⟩

/-! ## Layers -/

/-- An expression at a place has a twin at the twin of the place, if the comment spares it. -/
def AtTwin (gap : Gap) (setting : Setting) (layer : Expr → Goal) (cursor next : Cursor)
    (expr : Expr) : Prop :=
  expr.isSparedBy gap.comment = true → ∀ cursor', Twin gap true cursor cursor' →
    Follows gap setting layer cursor' next expr

/-- As before, for an expression that begins after blanks and comments. -/
def AtAligned (gap : Gap) (setting : Setting) (layer : Expr → Goal) (cursor next : Cursor)
    (expr : Expr) : Prop :=
  expr.isSparedBy gap.comment = true → ∀ cursor', Aligned gap cursor cursor' →
    Follows gap setting layer cursor' next expr

/-- What goes on from an expression goes on from an alike one. -/
def GoesOn (gap : Gap) (setting : Setting) (layer : Expr → Expr → Goal) (cursor next : Cursor)
    (head expr : Expr) : Prop :=
  expr.isSparedBy gap.comment = true → head.isSparedBy gap.comment = true ∧
    ∀ head' cursor', head.Alike gap head' → Twin gap true cursor cursor' →
      Follows gap setting (layer head') cursor' next expr

/-- Several expressions at a place have twins. -/
def ListAtTwin (gap : Gap) (setting : Setting) (layer : List Expr → Goal) (cursor next : Cursor)
    (exprs : List Expr) : Prop :=
  allSparedBy gap.comment exprs = true → ∀ cursor', Twin gap true cursor cursor' →
    ∃ exprs' next', Derives setting (layer exprs') cursor' next' ∧ Twin gap true next next' ∧
      essenceAll exprs' = essenceAll exprs

/-- What is derived between two places has a twin. -/
def Goal.Twinned (gap : Gap) (setting : Setting) (cursor next : Cursor) : Goal → Prop
  | .primary expr => AtTwin gap setting .primary cursor next expr
  | .suffixed expr => AtTwin gap setting .suffixed cursor next expr
  | .update expr => AtTwin gap setting .update cursor next expr
  | .unary expr => AtAligned gap setting .unary cursor next expr
  | .joined tiers expr => AtAligned gap setting (.joined tiers) cursor next expr
  | .conditional expr => AtAligned gap setting .conditional cursor next expr
  | .command expr => AtAligned gap setting .command cursor next expr
  | .pipeline expr => AtAligned gap setting .pipeline cursor next expr
  | .suffixes head expr => GoesOn gap setting .suffixes cursor next head expr
  | .infixes tier tighter left expr =>
    GoesOn gap setting (.infixes tier tighter) cursor next left expr
  | .pipes value expr => GoesOn gap setting .pipes cursor next value expr
  | .items close exprs =>
    close ∈ [')', ']'] → ListAtTwin gap setting (.items close) cursor next exprs
  | .arguments exprs => ListAtTwin gap setting .arguments cursor next exprs

/-! ## Suffixes -/

section

variable {head key target expr : Expr} {middle : Cursor}

theorem twinned_paren {inner : Expr} (opens : cursor.isAt ['('] = true)
    (content : AtAligned gap setting .pipeline (cursor.skip 1) next inner)
    (closes : next.isAt [')'] = true) :
    AtTwin gap setting .primary cursor (next.skip 1)
      (.paren inner (Note.at (cursor.spanTo (next.skip 1)))) := by
  intro spared cursor' twin
  rw [Expr.isSparedBy] at spared
  rcases twin.isAt opens (by decide) with ⟨opens', inside⟩
  rcases content spared _ inside.aligned with ⟨inner', next', derived, twin', alike⟩
  rcases twin'.isAt closes (by decide) with ⟨closes', outside⟩
  refine ⟨_, _, .paren opens' derived closes', outside, Expr.alike_of_bare ?_ rfl rfl⟩
  rw [Expr.essence, Expr.essence, alike.essence]

theorem twinned_array {items : List Expr} (opens : cursor.isAt ['['] = true)
    (content : ListAtTwin gap setting (.items ']') (cursor.skip 1) next items) :
    AtTwin gap setting .primary cursor next (.array items (Note.at (cursor.spanTo next))) := by
  intro spared cursor' twin
  rw [Expr.isSparedBy] at spared
  rcases twin.isAt opens (by decide) with ⟨opens', inside⟩
  rcases content spared _ inside with ⟨items', next', derived, outside, same⟩
  refine ⟨_, _, .array opens' derived, outside, Expr.alike_of_bare ?_ rfl rfl⟩
  rw [Expr.essence, Expr.essence, same]

/-- A suffix leads from an expression to another, and so does its twin. -/
theorem twinned_field {name : FieldKey} (dot : cursor.isAt ['.'] = true)
    (read : fieldKey (cursor.skip 1) = .ok (name, middle))
    (others : GoesOn gap setting .suffixes middle next
      (.field head name ((cursor.skip 1).spanTo middle) (suffixNote head middle)) expr) :
    GoesOn gap setting .suffixes cursor next head expr := by
  intro spared
  rcases others spared with ⟨sparedField, others⟩
  rw [Expr.isSparedBy] at sparedField
  refine ⟨sparedField, fun head' cursor' alike twin => ?_⟩
  rcases twin.isAt dot (by decide) with ⟨dot', afterDot⟩
  rcases fieldKey_twin read afterDot with ⟨middle', read', atMiddle⟩
  have alikeField : (Expr.field head name ((cursor.skip 1).spanTo middle)
      (suffixNote head middle)).Alike gap
        (.field head' name ((cursor'.skip 1).spanTo middle') (suffixNote head' middle')) := by
    refine Expr.alike_of_bare ?_ rfl rfl
    cases name <;> simp only [Expr.essence, alike.essence]
  rcases others _ _ alikeField atMiddle with ⟨expr', next', derived, outside, alike'⟩
  exact ⟨expr', next', .field dot' read' derived, outside, alike'⟩

theorem twinned_item (opens : cursor.isAt ['['] = true)
    (content : AtAligned gap setting .pipeline (cursor.skip 1) middle key)
    (closes : middle.isAt [']'] = true)
    (others : GoesOn gap setting .suffixes (middle.skip 1) next
      (.item head key (suffixNote head (middle.skip 1))) expr) :
    GoesOn gap setting .suffixes cursor next head expr := by
  intro spared
  rcases others spared with ⟨sparedItem, others⟩
  rw [Expr.isSparedBy, Bool.and_eq_true] at sparedItem
  refine ⟨sparedItem.1, fun head' cursor' alike twin => ?_⟩
  rcases twin.isAt opens (by decide) with ⟨opens', inside⟩
  rcases content sparedItem.2 _ inside.aligned with ⟨key', middle', derivedKey, twin', alikeKey⟩
  rcases twin'.isAt closes (by decide) with ⟨closes', outside⟩
  have alikeItem : (Expr.item head key (suffixNote head (middle.skip 1))).Alike gap
      (.item head' key' (suffixNote head' (middle'.skip 1))) := by
    refine Expr.alike_of_bare ?_ rfl rfl
    simp only [Expr.essence, alike.essence, alikeKey.essence]
  rcases others _ _ alikeItem outside with ⟨expr', next', derived, twin'', alike'⟩
  exact ⟨expr', next', .item opens' derivedKey closes' derived, twin'', alike'⟩

theorem twinned_call {arguments : List Expr} (opens : cursor.isAt ['('] = true)
    (content : ListAtTwin gap setting (.items ')') (cursor.skip 1) middle arguments)
    (others : GoesOn gap setting .suffixes middle next
      (.call head arguments false (suffixNote head middle)) expr) :
    GoesOn gap setting .suffixes cursor next head expr := by
  intro spared
  rcases others spared with ⟨sparedCall, others⟩
  simp only [Expr.isSparedBy, Bool.and_eq_true] at sparedCall
  refine ⟨sparedCall.1.1, fun head' cursor' alike twin => ?_⟩
  rcases twin.isAt opens (by decide) with ⟨opens', inside⟩
  rcases content sparedCall.2 _ inside with ⟨arguments', middle', derivedAll, outside, same⟩
  have alikeCall : (Expr.call head arguments false (suffixNote head middle)).Alike gap
      (.call head' arguments' false (suffixNote head' middle')) := by
    refine Expr.alike_of_bare ?_ rfl rfl
    simp only [Expr.essence, alike.essence, same]
  rcases others _ _ alikeCall outside with ⟨expr', next', derived, twin', alike'⟩
  exact ⟨expr', next', .call opens' derivedAll derived, twin', alike'⟩

/-! ## Operators of one operand -/

theorem twinned_updateBefore {op : UpdateOp} (standard : setting.tags = Delimiters.standard)
    (starts : updateOp? setting cursor.rest = some op)
    (operand : AtAligned gap setting .unary (cursor.skip 2) next target)
    (assignable : target.isAssignable = true) :
    AtTwin gap setting .update cursor next
      (.update op .before target (Note.at (Span.between cursor.offset target.span.stop))) := by
  intro spared cursor' twin
  rw [Expr.isSparedBy] at spared
  have starts' := (updateOp?_blanked standard twin.blanked).trans starts
  have afterOp := twin.skip (silent_updateOp standard starts)
  rcases operand spared _ afterOp.aligned with ⟨target', next', derived, twin', alike⟩
  have assignable' := (Expr.isAssignable_eq alike.essence).trans assignable
  refine ⟨_, _, .updateBefore starts' derived assignable', twin', Expr.alike_of_bare ?_ rfl rfl⟩
  rw [Expr.essence, Expr.essence, alike.essence]

theorem twinned_updateAfter {op : UpdateOp} (standard : setting.tags = Delimiters.standard)
    (noneBefore : updateOp? setting cursor.rest = none)
    (operand : AtTwin gap setting .suffixed cursor next target)
    (follows : updateOp? setting next.rest = some op) (assignable : target.isAssignable = true) :
    AtTwin gap setting .update cursor (next.skip 2)
      (.update op .after target (Note.at (cursor.spanTo (next.skip 2)))) := by
  intro spared cursor' twin
  rw [Expr.isSparedBy] at spared
  have noneBefore' := (updateOp?_blanked standard twin.blanked).trans noneBefore
  rcases operand spared _ twin with ⟨target', next', derived, twin', alike⟩
  have follows' := (updateOp?_blanked standard twin'.blanked).trans follows
  have assignable' := (Expr.isAssignable_eq alike.essence).trans assignable
  have afterOp := twin'.skip (silent_updateOp standard follows)
  refine ⟨_, _, .updateAfter noneBefore' derived follows' assignable', afterOp,
    Expr.alike_of_bare ?_ rfl rfl⟩
  rw [Expr.essence, Expr.essence, alike.essence]

theorem twinned_noUpdate (standard : setting.tags = Delimiters.standard)
    (noneBefore : updateOp? setting cursor.rest = none)
    (operand : AtTwin gap setting .suffixed cursor next expr)
    (noneAfter : updateOp? setting next.rest = none) :
    AtTwin gap setting .update cursor next expr := by
  intro spared cursor' twin
  rcases operand spared _ twin with ⟨expr', next', derived, twin', alike⟩
  have noneBefore' := (updateOp?_blanked standard twin.blanked).trans noneBefore
  have noneAfter' := (updateOp?_blanked standard twin'.blanked).trans noneAfter
  exact ⟨expr', next', .noUpdate noneBefore' derived noneAfter', twin', alike⟩

variable {room : Nat} {start : Cursor}

theorem twinned_operator {op : UnaryOp} {argument : Expr} {comments : List Comment}
    (standard : setting.tags = Delimiters.standard) (someRoom : setting.room = room + 1)
    (before : trivia cursor = .ok (comments, start))
    (starts : unaryOp? { setting with room := room } start.rest = some op)
    (operand : AtAligned gap { setting with room := room } .unary (start.skip 1) next argument) :
    AtAligned gap setting .unary cursor next
      ((Expr.unary op argument
        (Note.at (Span.between start.offset argument.span.stop))).addLeading comments) := by
  intro spared cursor' aligned
  rw [Expr.addLeading, Expr.isSparedBy_withNote, Expr.isSparedBy] at spared
  rcases aligned before with ⟨comments', start', before', twin, misses⟩
  have starts' : unaryOp? { setting with room := room } start'.rest = some op :=
    (unaryOp?_blanked standard twin.blanked).trans starts
  have silent : Silent start (start.skip 1) := silent_unaryOp standard starts
  have afterOp := twin.skip silent
  rcases operand spared _ afterOp.aligned with ⟨argument', next', derived, twin', alike⟩
  refine ⟨_, _, .operator someRoom before' starts' derived, twin', ?_⟩
  refine Expr.alike_withNote ?_ ?_ (.inr rfl)
  · rw [Expr.essence, Expr.essence, alike.essence]
  · exact misses.append (.inr rfl)

theorem twinned_operand {leading trailing : List Comment}
    (standard : setting.tags = Delimiters.standard) (someRoom : setting.room = room + 1)
    (before : trivia cursor = .ok (leading, start))
    (noOperator : unaryOp? { setting with room := room } start.rest = none)
    (derives : Derives { setting with room := room } (.update expr) start middle)
    (operand : AtTwin gap { setting with room := room } .update start middle expr)
    (after : trivia middle = .ok (trailing, next)) :
    AtAligned gap setting .unary cursor next ((expr.addTrailing trailing).addLeading leading) := by
  intro spared cursor' aligned
  have bare := (derives.skimmed standard).1
  rw [Expr.addComments_eq bare, Expr.isSparedBy_withNote] at spared
  rcases aligned before with ⟨leading', start', before', twin, missesBefore⟩
  have noOperator' : unaryOp? { setting with room := room } start'.rest = none :=
    (unaryOp?_blanked standard twin.blanked).trans noOperator
  rcases operand spared _ twin with ⟨expr', middle', derived, twin', alike⟩
  rcases twin'.trivia after with ⟨trailing', next', after', outside, missesAfter⟩
  have bare' := (derived.skimmed standard).1
  refine ⟨_, _, .operand someRoom before' noOperator' derived after', outside, ?_⟩
  rw [Expr.addComments_eq bare, Expr.addComments_eq bare']
  exact Expr.alike_withNote alike.essence missesBefore missesAfter

/-! ## Operators between operands -/

theorem isSparedBy_join {comment : Comment} (op : InfixOp) (left right : Expr) :
    (op.join left right).isSparedBy comment =
      (left.isSparedBy comment && right.isSparedBy comment) := by
  cases op <;> simp only [InfixOp.join, Expr.isSparedBy]

theorem alike_join {left left' right right' : Expr} (op : InfixOp) (alike : left.Alike gap left')
    (alike' : right.Alike gap right') :
    (op.join left right).Alike gap (op.join left' right') := by
  cases op <;> refine Expr.alike_of_bare ?_ rfl rfl <;>
    simp only [InfixOp.join, Expr.essence, alike.essence, alike'.essence]

variable {tier : List InfixOp} {tighter : List (List InfixOp)} {left : Expr}

theorem twinned_infixMore {op : InfixOp} {right : Expr}
    (standard : setting.tags = Delimiters.standard)
    (follows : infixOp? setting tier cursor.rest = some op)
    (operand : AtAligned gap setting (.joined tighter) (cursor.skip op.symbol.length) middle right)
    (others : GoesOn gap setting (.infixes tier tighter) middle next (op.join left right) expr) :
    GoesOn gap setting (.infixes tier tighter) cursor next left expr := by
  intro spared
  rcases others spared with ⟨sparedBoth, others⟩
  rw [isSparedBy_join, Bool.and_eq_true] at sparedBoth
  refine ⟨sparedBoth.1, fun left' cursor' alike twin => ?_⟩
  have follows' := (infixOp?_blanked standard tier twin.blanked).trans follows
  have afterOp := twin.skip (silent_infixOp standard follows)
  rcases operand sparedBoth.2 _ afterOp.aligned with ⟨right', middle', derived, twin', alikeRight⟩
  rcases others _ _ (alike_join op alike alikeRight) twin' with
    ⟨expr', next', derivedMore, twin'', alike'⟩
  exact ⟨expr', next', .infixMore follows' derived derivedMore, twin'', alike'⟩

theorem twinned_tier (operand : AtAligned gap setting (.joined tighter) cursor middle left)
    (others : GoesOn gap setting (.infixes tier tighter) middle next left expr) :
    AtAligned gap setting (.joined (tier :: tighter)) cursor next expr := by
  intro spared cursor' aligned
  rcases others spared with ⟨sparedLeft, others⟩
  rcases operand sparedLeft _ aligned with ⟨left', middle', derived, twin, alike⟩
  rcases others _ _ alike twin with ⟨expr', next', derivedMore, twin', alike'⟩
  exact ⟨expr', next', .tier derived derivedMore, twin', alike'⟩

theorem twinned_test (test : AtAligned gap setting (.joined tiers) cursor next expr)
    (ends : next.isAt ['?'] = false) : AtAligned gap setting .conditional cursor next expr := by
  intro spared cursor' aligned
  rcases test spared _ aligned with ⟨expr', next', derived, twin, alike⟩
  have ends' := (isAt_blanked twin.blanked (by decide) (by decide)).trans ends
  exact ⟨expr', next', .test derived ends', twin, alike⟩

theorem twinned_choice {test consequent alternative : Expr} {afterTest afterConsequent : Cursor}
    (first : AtAligned gap setting (.joined tiers) cursor afterTest test)
    (question : afterTest.isAt ['?'] = true)
    (second : AtAligned gap setting .conditional (afterTest.skip 1) afterConsequent consequent)
    (colon : afterConsequent.isAt [':'] = true)
    (third : AtAligned gap setting .conditional (afterConsequent.skip 1) next alternative) :
    AtAligned gap setting .conditional cursor next
      (.conditional test consequent alternative
        (Note.at (test.span.union alternative.span))) := by
  intro spared cursor' aligned
  simp only [Expr.isSparedBy, Bool.and_eq_true] at spared
  rcases first spared.1.1 _ aligned with ⟨test', afterTest', derivedTest, atQuestion, alikeTest⟩
  rcases atQuestion.isAt question (by decide) with ⟨question', twin⟩
  rcases second spared.1.2 _ twin.aligned with
    ⟨consequent', afterConsequent', derivedFirst, atColon, alikeFirst⟩
  rcases atColon.isAt colon (by decide) with ⟨colon', twin'⟩
  rcases third spared.2 _ twin'.aligned with ⟨alternative', next', derived, twin'', alike⟩
  refine ⟨_, _, .choice derivedTest question' derivedFirst colon' derived, twin'',
    Expr.alike_of_bare ?_ rfl rfl⟩
  rw [Expr.essence, Expr.essence, alikeTest.essence, alikeFirst.essence, alike.essence]

/-! ## Lists and arguments -/

variable {close : Char} {item : Expr} {items : List Expr}

theorem isCalm_of_close (isClose : close ∈ [')', ']']) : isCalm close = true := by
  simp only [List.mem_cons, List.not_mem_nil, or_false] at isClose
  rcases isClose with rfl | rfl <;> rfl

theorem not_closed_of_item (isClose : close ∈ [')', ']'])
    (derived : Derives setting (.conditional item) cursor.skipBlanks next) :
    cursor.skipBlanks.isAt [close] = false := by
  rcases derived.begins with ⟨comments, start, before, starts⟩
  refine notEnding_skipBlanks (trivia_skipBlanks.mp before) starts.notEnding close ?_
  exact List.mem_append_left [':'] isClose

theorem twinned_itemsEnd (closes : cursor.skipBlanks.isAt [close] = true)
    (isClose : close ∈ [')', ']']) :
    ListAtTwin gap setting (.items close) cursor (cursor.skipBlanks.skip 1) [] := by
  intro _ cursor' twin
  have settled : cursor.skipBlanks.Settled := by
    simp only [List.mem_cons, List.not_mem_nil, or_false] at isClose
    rcases isClose with rfl | rfl <;> exact settled_of_isAt closes (by decide) (by decide)
  rcases (twin.skipBlanks settled).isAt closes (isCalm_of_close isClose) with ⟨closes', twin'⟩
  exact ⟨[], _, .itemsEnd closes', twin', rfl⟩

theorem twinned_itemsLast (content : AtAligned gap setting .conditional cursor.skipBlanks next item)
    (noComma : next.isAt [','] = false) (closes : next.isAt [close] = true)
    (isClose : close ∈ [')', ']']) :
    ListAtTwin gap setting (.items close) cursor (next.skip 1) [item] := by
  intro spared cursor' twin
  simp only [allSparedBy, Bool.and_true] at spared
  rcases content spared _ twin.aligned_skipBlanks with ⟨item', next', derived, twin', alike⟩
  have noComma' := (isAt_blanked twin'.blanked (by decide) (by decide)).trans noComma
  rcases twin'.isAt closes (isCalm_of_close isClose) with ⟨closes', outside⟩
  refine ⟨[item'], _, ?_, outside, ?_⟩
  · exact .itemsLast (not_closed_of_item isClose derived) derived noComma' closes'
  · simp only [essenceAll, alike.essence]

theorem twinned_itemsMore
    (content : AtAligned gap setting .conditional cursor.skipBlanks middle item)
    (comma : middle.isAt [','] = true)
    (others : ListAtTwin gap setting (.items close) (middle.skip 1) next items)
    (isClose : close ∈ [')', ']']) :
    ListAtTwin gap setting (.items close) cursor next (item :: items) := by
  intro spared cursor' twin
  rw [allSparedBy, Bool.and_eq_true] at spared
  rcases content spared.1 _ twin.aligned_skipBlanks with ⟨item', middle', derived, twin', alike⟩
  rcases twin'.isAt comma (by decide) with ⟨comma', afterComma⟩
  rcases others spared.2 _ afterComma with ⟨items', next', derivedMore, outside, same⟩
  refine ⟨item' :: items', next', ?_, outside, ?_⟩
  · exact .itemsMore (not_closed_of_item isClose derived) derived comma' derivedMore
  · rw [essenceAll, essenceAll, alike.essence, same]

theorem twinned_argument {argument : Expr} {arguments : List Expr}
    (standard : setting.tags = Delimiters.standard)
    (starts : atArgument setting cursor.rest = true)
    (operand : AtAligned gap setting .unary cursor middle argument)
    (others : ListAtTwin gap setting .arguments middle next arguments) :
    ListAtTwin gap setting .arguments cursor next (argument :: arguments) := by
  intro spared cursor' twin
  rw [allSparedBy, Bool.and_eq_true] at spared
  have starts' := (atArgument_blanked standard twin.blanked).trans starts
  rcases operand spared.1 _ twin.aligned with ⟨argument', middle', derived, twin', alike⟩
  rcases others spared.2 _ twin' with ⟨arguments', next', derivedMore, outside, same⟩
  refine ⟨argument' :: arguments', next', .argument starts' derived derivedMore, outside, ?_⟩
  rw [essenceAll, essenceAll, alike.essence, same]

/-! ## Commands and pipes -/

theorem twinned_noCommand (standard : setting.tags = Delimiters.standard)
    (content : AtAligned gap setting .conditional cursor next head)
    (ends : (head.isCallable && atArgument setting next.rest) = false) :
    AtAligned gap setting .command cursor next head := by
  intro spared cursor' aligned
  rcases content spared _ aligned with ⟨head', next', derived, twin, alike⟩
  rw [← Expr.isCallable_eq alike.essence, ← atArgument_blanked standard twin.blanked] at ends
  exact ⟨head', next', .noCommand derived ends, twin, alike⟩

theorem twinned_command {extra : List Expr} (standard : setting.tags = Delimiters.standard)
    (content : AtAligned gap setting .conditional cursor middle head)
    (goesOn : (head.isCallable && atArgument setting middle.rest) = true)
    (arguments : ListAtTwin gap setting .arguments middle next extra) :
    AtAligned gap setting .command cursor next (head.command extra) := by
  intro spared cursor' aligned
  rcases Expr.spared_of_applyTo spared with ⟨sparedHead, -, sparedExtra⟩
  rcases content sparedHead _ aligned with ⟨head', middle', derived, twin, alike⟩
  rw [← Expr.isCallable_eq alike.essence, ← atArgument_blanked standard twin.blanked] at goesOn
  rcases arguments sparedExtra _ twin with ⟨extra', next', derivedAll, twin', same⟩
  exact ⟨_, next', .command derived goesOn derivedAll, twin', alike.applyTo rfl same spared⟩

theorem twinned_pipe {value segment : Expr} {leading trailing : List Comment} {extra : List Expr}
    {afterSegment afterTrivia : Cursor} (standard : setting.tags = Delimiters.standard)
    (follows : atPipe setting cursor.rest = true)
    (before : trivia (cursor.skip 1) = .ok (leading, start))
    (callee : AtTwin gap setting .suffixed start afterSegment segment)
    (after : trivia afterSegment = .ok (trailing, afterTrivia))
    (arguments : ListAtTwin gap setting .arguments afterTrivia middle extra)
    (others : GoesOn gap setting .pipes middle next
      (value.pipeInto (segment.withNote ⟨segment.span, leading, trailing⟩) extra) expr) :
    GoesOn gap setting .pipes cursor next value expr := by
  intro spared
  rcases others spared with ⟨sparedCall, others⟩
  rcases Expr.spared_of_applyTo sparedCall with ⟨sparedSegment, sparedValue, sparedExtra⟩
  rw [Expr.isSparedBy_withNote] at sparedSegment
  rw [allSparedBy, allSparedBy, Bool.and_true] at sparedValue
  refine ⟨sparedValue, fun value' cursor' alike twin => ?_⟩
  have follows' := (atPipe_blanked standard twin.blanked).trans follows
  rcases (twin.skip (silent_pipe follows)).trivia before with
    ⟨leading', start', before', atSegment, missesBefore⟩
  rcases callee sparedSegment _ atSegment with
    ⟨segment', afterSegment', derived, behind, alikeSegment⟩
  rcases behind.trivia after with ⟨trailing', afterTrivia', after', atArguments, missesAfter⟩
  rcases arguments sparedExtra _ atArguments with ⟨extra', middle', derivedAll, atMiddle, same⟩
  -- Only the gap may be missing beside the segment, and then the segment takes no arguments.
  have alikeNoted : (segment.withNote ⟨segment.span, leading, trailing⟩).Alike gap
      (segment'.withNote ⟨segment'.span, leading', trailing'⟩) :=
    Expr.alike_withNote alikeSegment.essence missesBefore missesAfter
  have sameValue : essenceAll [value'] = essenceAll [value] := by
    simp only [essenceAll, alike.essence]
  rcases others _ _ (alikeNoted.applyTo sameValue same sparedCall) atMiddle with
    ⟨expr', next', derivedMore, outside, alike'⟩
  exact ⟨expr', next', .pipe follows' before' derived after' derivedAll derivedMore, outside,
    alike'⟩

end

/-! ## All layers -/

/-- Whatever is derived has a twin, if the comment spares it. -/
theorem Derives.twinned {goal : Goal} (derived : Derives setting goal cursor next)
    (standard : setting.tags = Delimiters.standard) (gap : Gap) :
    goal.Twinned gap setting cursor next := by
  induction derived with
  | paren opens _ closed content => exact twinned_paren opens (content standard) closed
  | array opens _ content => exact twinned_array opens (content standard (by simp))
  | word noParen noBracket starts read =>
    intro _ cursor' twin
    have noParen' := (isAt_blanked twin.blanked (by decide) (by decide)).trans noParen
    have noBracket' := (isAt_blanked twin.blanked (by decide) (by decide)).trans noBracket
    have starts' := (peekWord?_blanked twin.blanked).trans starts
    rw [reaches_of_wordExpr read]
    have read' := wordExpr_again read cursor'
    refine ⟨_, _, .word noParen' noBracket' starts' read', twin.skipWord, ?_⟩
    exact Expr.alike_of_bare (Expr.essence_withNote _ _) (comments_of_wordExpr read).1
      (comments_of_wordExpr read').1
  | literal noParen noBracket noWord read =>
    intro _ cursor' twin
    have noParen' := (isAt_blanked twin.blanked (by decide) (by decide)).trans noParen
    have noBracket' := (isAt_blanked twin.blanked (by decide) (by decide)).trans noBracket
    have noWord' := (peekWord?_blanked twin.blanked).trans noWord
    rcases literal_twin read twin with ⟨expr', next', read', twin', alike⟩
    exact ⟨expr', next', .literal noParen' noBracket' noWord' read', twin', alike⟩
  | noSuffix noDot noBracket noParen =>
    intro spared
    refine ⟨spared, fun head' cursor' alike twin => ?_⟩
    have noDot' := (isAt_blanked twin.blanked (by decide) (by decide)).trans noDot
    have noBracket' := (isAt_blanked twin.blanked (by decide) (by decide)).trans noBracket
    have noParen' := (isAt_blanked twin.blanked (by decide) (by decide)).trans noParen
    exact ⟨head', cursor', .noSuffix noDot' noBracket' noParen', twin, alike⟩
  | field dot read _ others => exact twinned_field dot read (others standard)
  | item opens _ closed _ content others =>
    exact twinned_item opens (content standard) closed (others standard)
  | call opens _ _ content others =>
    exact twinned_call opens (content standard (by simp)) (others standard)
  | suffixed _ _ start others =>
    intro spared cursor' twin
    rcases others standard spared with ⟨sparedHead, others⟩
    rcases start standard sparedHead _ twin with ⟨head', middle', derived, twin', alike⟩
    rcases others _ _ alike twin' with ⟨expr', next', derivedMore, twin'', alike'⟩
    exact ⟨expr', next', .suffixed derived derivedMore, twin'', alike'⟩
  | updateBefore starts _ assignable operand =>
    exact twinned_updateBefore standard starts (operand standard) assignable
  | updateAfter noneBefore _ follows assignable operand =>
    exact twinned_updateAfter standard noneBefore (operand standard) follows assignable
  | noUpdate noneBefore _ noneAfter operand =>
    exact twinned_noUpdate standard noneBefore (operand standard) noneAfter
  | operator someRoom before starts _ operand =>
    exact twinned_operator standard someRoom before starts (operand standard)
  | operand someRoom before noOperator derives after operand =>
    exact twinned_operand standard someRoom before noOperator derives (operand standard) after
  | @noInfix _ tier _ _ _ ends =>
    intro spared
    refine ⟨spared, fun left' cursor' alike twin => ?_⟩
    have ends' := (infixOp?_blanked standard tier twin.blanked).trans ends
    exact ⟨left', cursor', .noInfix ends', twin, alike⟩
  | infixMore follows _ _ operand others =>
    exact twinned_infixMore standard follows (operand standard) (others standard)
  | tightest _ operand =>
    intro spared cursor' aligned
    rcases operand standard spared _ aligned with ⟨expr', next', derived, twin, alike⟩
    exact ⟨expr', next', .tightest derived, twin, alike⟩
  | tier _ _ start others => exact twinned_tier (start standard) (others standard)
  | test _ ends start => exact twinned_test (start standard) ends
  | choice _ question _ colon _ start first second =>
    exact twinned_choice (start standard) question (first standard) colon (second standard)
  | itemsEnd closed => exact twinned_itemsEnd closed
  | itemsLast _ _ noComma closed content =>
    exact twinned_itemsLast (content standard) noComma closed
  | itemsMore _ _ comma _ content others =>
    exact fun isClose =>
      twinned_itemsMore (content standard) comma (others standard isClose) isClose
  | noArgument ends =>
    intro _ cursor' twin
    have ends' := (atArgument_blanked standard twin.blanked).trans ends
    exact ⟨[], cursor', .noArgument ends', twin, rfl⟩
  | refused starts refused =>
    intro _ cursor' twin
    have starts' := (atArgument_blanked standard twin.blanked).trans starts
    exact ⟨[], cursor', .refused starts' (refused.twin standard twin), twin, rfl⟩
  | argument starts _ _ operand others =>
    exact twinned_argument standard starts (operand standard) (others standard)
  | noCommand _ ends start => exact twinned_noCommand standard (start standard) ends
  | command _ goesOn _ start arguments =>
    exact twinned_command standard (start standard) goesOn (arguments standard)
  | noPipe ends =>
    intro spared
    refine ⟨spared, fun value' cursor' alike twin => ?_⟩
    have ends' := (atPipe_blanked standard twin.blanked).trans ends
    exact ⟨value', cursor', .noPipe ends', twin, alike⟩
  | pipe follows before _ after _ _ callee arguments others =>
    exact twinned_pipe standard follows before (callee standard) after (arguments standard)
      (others standard)
  | pipeline _ _ start others =>
    intro spared cursor' aligned
    rcases others standard spared with ⟨sparedHead, others⟩
    rcases start standard sparedHead _ aligned with ⟨head', middle', derived, twin, alike⟩
    rcases others _ _ alike twin with ⟨expr', next', derivedMore, twin', alike'⟩
    exact ⟨expr', next', .pipeline derived derivedMore, twin', alike'⟩

end Grammar

end TemplateLang
