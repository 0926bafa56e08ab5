import TemplateLang.Proofs.Grammar.Forward

/-!
# Derivations are readings

The readers give whatever has a derivation.  What has to be shown besides following the
rules is that neither the rounds of a loop nor the readers of inner expressions run out:
every round takes a character, and the grammar goes up only past a character, so the text
that is left bounds both.

Together with soundness this makes derivations unique.
-/

namespace TemplateLang

namespace Grammar

open Cursor

/-! ## Expressions take characters -/

theorem isAt_passes {cursor next : Cursor} {c : Char} (isAt : cursor.isAt [c] = true)
    (reaches : (cursor.skip 1).Reaches next) : cursor.Passes next :=
  ⟨rest_ne_nil_of_isAt isAt, reaches⟩

theorem passes_of_updateOp {setting : Setting} {cursor : Cursor} {op : UpdateOp}
    (starts : updateOp? setting cursor.rest = some op) : cursor.Passes (cursor.skip 2) := by
  refine passes_skip ?_ Nat.two_pos
  intro atEnd
  simp [atEnd, updateOp?] at starts

theorem passes_of_unaryOp {setting : Setting} {cursor : Cursor} {op : UnaryOp}
    (starts : unaryOp? setting cursor.rest = some op) : cursor.Passes (cursor.skip 1) := by
  refine passes_skip ?_ Nat.one_pos
  intro atEnd
  simp [atEnd, unaryOp?] at starts

theorem passes_of_infixOp {setting : Setting} {tier : List InfixOp} {cursor : Cursor}
    {op : InfixOp} (follows : infixOp? setting tier cursor.rest = some op) :
    cursor.Passes (cursor.skip op.symbol.length) := by
  have someSymbol : 0 < op.symbol.length := by
    rcases op with op | op <;> cases op <;> decide
  refine passes_skip ?_ someSymbol
  intro atEnd
  have starts := symbol_of_infixOp? follows
  rw [atEnd] at starts
  rw [← String.length_toList, List.length_pos_iff] at someSymbol
  exact someSymbol (List.prefix_nil.mp starts)

theorem passes_of_pipe {setting : Setting} {cursor : Cursor}
    (follows : atPipe setting cursor.rest = true) : cursor.Passes (cursor.skip 1) := by
  refine passes_skip ?_ Nat.one_pos
  intro atEnd
  simp [atEnd, atPipe] at follows

/-- Goals that are expressions, none of which is empty. -/
def Goal.isExpression : Goal → Bool
  | .primary _ | .suffixed _ | .update _ | .unary _ | .joined _ _ | .conditional _ | .command _
  | .pipeline _ => true
  | .suffixes _ _ | .infixes _ _ _ _ | .items _ _ | .arguments _ | .pipes _ _ => false

theorem Derives.passes {setting : Setting} {goal : Goal} {cursor next : Cursor}
    (derived : Derives setting goal cursor next) (isExpression : goal.isExpression = true) :
    cursor.Passes next := by
  induction derived with
  | paren opens content =>
    exact isAt_passes opens (content.reaches.trans (reaches_skip _ 1))
  | array opens content => exact isAt_passes opens content.reaches
  | word _ _ starts read => exact reaches_of_wordExpr read ▸ passes_skipWord starts
  | literal _ _ _ read =>
    rcases literal_eq_ok.mp read with ⟨_, _, found, -⟩ | ⟨-, _, found, -⟩
    · exact Literal.passes_of_string found
    · exact Literal.passes_of_number found
  | suffixed _ others start => exact (start rfl).trans_reaches others.reaches
  | updateBefore starts operand =>
    exact (passes_of_updateOp starts).trans_reaches operand.reaches
  | updateAfter _ _ _ _ operand => exact (operand rfl).trans_reaches (reaches_skip _ 2)
  | noUpdate _ _ _ operand => exact operand rfl
  | operator _ before starts operand =>
    exact (reaches_of_trivia before).trans_passes
      ((passes_of_unaryOp starts).trans_reaches operand.reaches)
  | operand _ before _ _ after operand =>
    exact (reaches_of_trivia before).trans_passes
      ((operand rfl).trans_reaches (reaches_of_trivia after))
  | tightest _ operand => exact operand rfl
  | tier _ others start => exact (start rfl).trans_reaches others.reaches
  | test _ _ start => exact start rfl
  | choice _ _ first _ second start =>
    exact (start rfl).trans_reaches
      ((((reaches_skip _ 1).trans first.reaches).trans (reaches_skip _ 1)).trans second.reaches)
  | noCommand _ _ start => exact start rfl
  | command _ _ arguments start => exact (start rfl).trans_reaches arguments.reaches
  | pipeline _ others start => exact (start rfl).trans_reaches others.reaches
  | _ => simp [Goal.isExpression] at isExpression

/-! ## What the readers give -/

/-- The readers of a layer give what is derived.  A loop gives it with any number of
rounds that the text left over allows. -/
def ReadBy (inner : Inner) (setting : Setting) (cursor next : Cursor) : Goal → Prop
  | .primary expr => primary inner setting cursor = .ok (expr, next)
  | .suffixes head expr => ∀ fuel, cursor.room < fuel →
    Reading.rounds (suffixRound inner setting) fuel head cursor = .ok (expr, next)
  | .suffixed expr => suffixed inner setting cursor = .ok (expr, next)
  | .update expr => bareUpdate inner setting cursor = .ok (expr, next)
  | .unary expr => unary inner setting cursor = .ok (expr, next)
  | .infixes tier tighter left expr => ∀ fuel, cursor.room < fuel →
    Reading.rounds (infixRound setting tier (joined inner setting tighter)) fuel left cursor =
      .ok (expr, next)
  | .joined levels expr => joined inner setting levels cursor = .ok (expr, next)
  | .conditional expr => conditional inner setting cursor = .ok (expr, next)
  | .items close exprs => ∀ before fuel, cursor.room < fuel →
    Reading.rounds (listRound inner setting close) fuel before cursor =
      .ok (before ++ exprs, next)
  | .arguments exprs => ∀ before fuel, cursor.room < fuel →
    Reading.rounds (argumentRound inner setting) fuel before cursor = .ok (before ++ exprs, next)
  | .command expr => command inner setting cursor = .ok (expr, next)
  | .pipes value expr => ∀ fuel, cursor.room < fuel →
    Reading.rounds (pipeRound inner setting) fuel value cursor = .ok (expr, next)
  | .pipeline expr => pipeline inner setting cursor = .ok (expr, next)

/-- How many inner readers a goal needs above what the text left over takes.  Items
stand after a bracket that they do not count. -/
def Goal.margin : Goal → Nat
  | .items _ _ => 1
  | _ => 0

/-! ## One rule of each layer -/

section

variable {inner : Inner} {setting : Setting}

theorem commit_ok {α : Type} {fault : Fault} {result : Reading (α × Cursor)} {given : α × Cursor}
    (read : result = .ok given) : result.commit fault = .ok given :=
  Reading.commit_eq_ok.mpr read

theorem requireChar_ok {c : Char} {fault : Fault} {cursor : Cursor}
    (isAt : cursor.isAt [c] = true) : requireChar c fault cursor = .ok (cursor.skip 1) :=
  requireChar_eq_ok.mpr ⟨isAt, rfl⟩

theorem primary_paren {cursor next : Cursor} {expr : Expr} (opens : cursor.isAt ['('] = true)
    (content : inner.pipeline setting (cursor.skip 1) = .ok (expr, next))
    (closes : next.isAt [')'] = true) :
    primary inner setting cursor =
      .ok (.paren expr (Note.at (cursor.spanTo (next.skip 1))), next.skip 1) := by
  unfold primary
  rw [if_pos opens]
  refine Reading.bind_eq_ok.mpr ⟨(expr, next), commit_ok content, ?_⟩
  exact Reading.bind_eq_ok.mpr ⟨next.skip 1, requireChar_ok closes, rfl⟩

theorem primary_array {cursor next : Cursor} {items : List Expr}
    (opens : cursor.isAt ['['] = true)
    (content : list inner setting ']' (cursor.skip 1) = .ok (items, next)) :
    primary inner setting cursor = .ok (.array items (Note.at (cursor.spanTo next)), next) := by
  unfold primary
  rw [isAt_ne opens (by decide), if_neg Bool.false_ne_true, if_pos opens]
  exact Reading.bind_eq_ok.mpr ⟨(items, next), content, rfl⟩

theorem suffixRound_field {head : Expr} {cursor next : Cursor} {key : FieldKey}
    (dot : cursor.isAt ['.'] = true) (read : fieldKey (cursor.skip 1) = .ok (key, next)) :
    suffixRound inner setting head cursor =
      .ok (.again (.field head key ((cursor.skip 1).spanTo next) (suffixNote head next)),
        next) := by
  unfold suffixRound
  dsimp only
  rw [if_pos dot]
  exact Reading.bind_eq_ok.mpr ⟨(key, next), read, rfl⟩

theorem suffixRound_item {head key : Expr} {cursor next : Cursor}
    (opens : cursor.isAt ['['] = true)
    (content : inner.pipeline setting (cursor.skip 1) = .ok (key, next))
    (closes : next.isAt [']'] = true) :
    suffixRound inner setting head cursor =
      .ok (.again (.item head key (suffixNote head (next.skip 1))), next.skip 1) := by
  unfold suffixRound
  dsimp only
  rw [isAt_ne opens (by decide), if_neg Bool.false_ne_true, if_pos opens]
  refine Reading.bind_eq_ok.mpr ⟨(key, next), commit_ok content, ?_⟩
  exact Reading.bind_eq_ok.mpr ⟨next.skip 1, requireChar_ok closes, rfl⟩

theorem suffixRound_call {head : Expr} {arguments : List Expr} {cursor next : Cursor}
    (opens : cursor.isAt ['('] = true)
    (content : list inner setting ')' (cursor.skip 1) = .ok (arguments, next)) :
    suffixRound inner setting head cursor =
      .ok (.again (.call head arguments false (suffixNote head next)), next) := by
  unfold suffixRound
  dsimp only
  rw [isAt_ne opens (by decide), if_neg Bool.false_ne_true, isAt_ne opens (by decide),
    if_neg Bool.false_ne_true, if_pos opens]
  exact Reading.bind_eq_ok.mpr ⟨(arguments, next), content, rfl⟩

theorem suffixRound_done {head : Expr} {cursor : Cursor} (noDot : cursor.isAt ['.'] = false)
    (noBracket : cursor.isAt ['['] = false) (noParen : cursor.isAt ['('] = false) :
    suffixRound inner setting head cursor = .ok (.done head, cursor) := by
  unfold suffixRound
  dsimp only
  rw [noDot, noBracket, noParen]
  rfl

theorem bareUpdate_before {op : UpdateOp} {target : Expr} {cursor next : Cursor}
    (starts : updateOp? setting cursor.rest = some op)
    (operand : inner.unary setting (cursor.skip 2) = .ok (target, next))
    (assignable : target.isAssignable = true) :
    bareUpdate inner setting cursor =
      .ok (.update op .before target (Note.at (Span.between cursor.offset target.span.stop)),
        next) := by
  unfold bareUpdate
  rw [starts]
  refine Reading.bind_eq_ok.mpr ⟨(target, next), commit_ok operand, ?_⟩
  exact Reading.bind_eq_ok.mpr ⟨(), requireAssignable_eq_ok.mpr assignable, rfl⟩

theorem bareUpdate_after {op : UpdateOp} {target : Expr} {cursor next : Cursor}
    (noneBefore : updateOp? setting cursor.rest = none)
    (operand : suffixed inner setting cursor = .ok (target, next))
    (follows : updateOp? setting next.rest = some op)
    (assignable : target.isAssignable = true) :
    bareUpdate inner setting cursor =
      .ok (.update op .after target (Note.at (cursor.spanTo (next.skip 2))), next.skip 2) := by
  unfold bareUpdate
  rw [noneBefore]
  refine Reading.bind_eq_ok.mpr ⟨(target, next), operand, ?_⟩
  dsimp only
  rw [follows]
  exact Reading.bind_eq_ok.mpr ⟨(), requireAssignable_eq_ok.mpr assignable, rfl⟩

theorem bareUpdate_none {expr : Expr} {cursor next : Cursor}
    (noneBefore : updateOp? setting cursor.rest = none)
    (operand : suffixed inner setting cursor = .ok (expr, next))
    (noneAfter : updateOp? setting next.rest = none) :
    bareUpdate inner setting cursor = .ok (expr, next) := by
  unfold bareUpdate
  rw [noneBefore]
  refine Reading.bind_eq_ok.mpr ⟨(expr, next), operand, ?_⟩
  dsimp only
  rw [noneAfter]

theorem unary_operator {room : Nat} {op : UnaryOp} {argument : Expr} {comments : List Comment}
    {cursor start next : Cursor} (someRoom : setting.room = room + 1)
    (before : trivia cursor = .ok (comments, start))
    (starts : unaryOp? { setting with room := room } start.rest = some op)
    (operand : inner.unary { setting with room := room } (start.skip 1) = .ok (argument, next)) :
    unary inner setting cursor =
      .ok ((Expr.unary op argument
        (Note.at (Span.between start.offset argument.span.stop))).addLeading comments, next) := by
  refine Setting.nested_eq_ok.mpr ⟨room, someRoom, ?_⟩
  refine Reading.bind_eq_ok.mpr ⟨(comments, start), before, ?_⟩
  dsimp only
  rw [starts]
  refine Reading.bind_eq_ok.mpr ⟨(argument, next), commit_ok operand, ?_⟩
  exact Reading.bind_eq_ok.mpr ⟨(_, next), rfl, rfl⟩

theorem unary_operand {room : Nat} {expr : Expr} {leading trailing : List Comment}
    {cursor start middle next : Cursor} (someRoom : setting.room = room + 1)
    (before : trivia cursor = .ok (leading, start))
    (noOperator : unaryOp? { setting with room := room } start.rest = none)
    (operand : bareUpdate inner { setting with room := room } start = .ok (expr, middle))
    (after : trivia middle = .ok (trailing, next)) :
    unary inner setting cursor = .ok ((expr.addTrailing trailing).addLeading leading, next) := by
  refine Setting.nested_eq_ok.mpr ⟨room, someRoom, ?_⟩
  refine Reading.bind_eq_ok.mpr ⟨(leading, start), before, ?_⟩
  dsimp only
  rw [noOperator]
  refine Reading.bind_eq_ok.mpr ⟨(expr.addTrailing trailing, next), ?_, rfl⟩
  refine Reading.bind_eq_ok.mpr ⟨(expr, middle), operand, ?_⟩
  exact Reading.bind_eq_ok.mpr ⟨(trailing, next), after, rfl⟩

theorem conditional_choice {test consequent alternate : Expr}
    {cursor afterTest afterConsequent next : Cursor}
    (start : joined inner setting tiers cursor = .ok (test, afterTest))
    (question : afterTest.isAt ['?'] = true)
    (first : inner.conditional setting (afterTest.skip 1) = .ok (consequent, afterConsequent))
    (colon : afterConsequent.isAt [':'] = true)
    (second : inner.conditional setting (afterConsequent.skip 1) = .ok (alternate, next)) :
    conditional inner setting cursor =
      .ok (.conditional test consequent alternate
        (Note.at (test.span.union alternate.span)), next) := by
  refine Reading.bind_eq_ok.mpr ⟨(test, afterTest), start, ?_⟩
  dsimp only
  rw [if_pos question]
  refine Reading.bind_eq_ok.mpr ⟨(consequent, afterConsequent), commit_ok first, ?_⟩
  refine Reading.bind_eq_ok.mpr ⟨afterConsequent.skip 1, requireChar_ok colon, ?_⟩
  exact Reading.bind_eq_ok.mpr ⟨(alternate, next), commit_ok second, rfl⟩

theorem listRound_last {close : Char} {items : List Expr} {item : Expr} {cursor next : Cursor}
    (notYet : cursor.skipBlanks.isAt [close] = false)
    (content : inner.conditional setting cursor.skipBlanks = .ok (item, next))
    (noComma : next.isAt [','] = false) (closes : next.isAt [close] = true) :
    listRound inner setting close items cursor =
      .ok (.done (items ++ [item]), next.skip 1) := by
  unfold listRound
  dsimp only
  rw [notYet, if_neg Bool.false_ne_true]
  refine Reading.bind_eq_ok.mpr ⟨(item, next), commit_ok content, ?_⟩
  dsimp only
  rw [noComma, if_neg Bool.false_ne_true]
  exact Reading.bind_eq_ok.mpr ⟨next.skip 1, requireChar_ok closes, rfl⟩

theorem listRound_more {close : Char} {items : List Expr} {item : Expr} {cursor next : Cursor}
    (notYet : cursor.skipBlanks.isAt [close] = false)
    (content : inner.conditional setting cursor.skipBlanks = .ok (item, next))
    (comma : next.isAt [','] = true) :
    listRound inner setting close items cursor =
      .ok (.again (items ++ [item]), next.skip 1) := by
  unfold listRound
  dsimp only
  rw [notYet, if_neg Bool.false_ne_true]
  refine Reading.bind_eq_ok.mpr ⟨(item, next), commit_ok content, ?_⟩
  dsimp only
  rw [comma]
  rfl

theorem argumentRound_more {arguments : List Expr} {argument : Expr} {cursor next : Cursor}
    (starts : atArgument setting cursor.rest = true)
    (operand : unary inner setting cursor = .ok (argument, next)) :
    argumentRound inner setting arguments cursor =
      .ok (.again (arguments ++ [argument]), next) := by
  unfold argumentRound
  rw [if_pos starts, operand]

theorem argumentRound_none {arguments : List Expr} {cursor : Cursor}
    (ends : atArgument setting cursor.rest = false) :
    argumentRound inner setting arguments cursor = .ok (.done arguments, cursor) := by
  unfold argumentRound
  rw [ends, if_neg Bool.false_ne_true]

theorem argumentRound_refused {arguments : List Expr} {cursor : Cursor}
    (starts : atArgument setting cursor.rest = true) (refused : Refused setting cursor) :
    argumentRound inner setting arguments cursor = .ok (.done arguments, cursor) := by
  obtain ⟨fault, span, failed⟩ := refused
  unfold argumentRound
  rw [if_pos starts, failed inner]

theorem pipeRound_more {value segment : Expr} {leading trailing : List Comment}
    {extra : List Expr} {cursor start afterSegment afterTrivia next : Cursor}
    (follows : atPipe setting cursor.rest = true)
    (before : trivia (cursor.skip 1) = .ok (leading, start))
    (callee : suffixed inner setting start = .ok (segment, afterSegment))
    (after : trivia afterSegment = .ok (trailing, afterTrivia))
    (read : arguments inner setting afterTrivia = .ok (extra, next)) :
    pipeRound inner setting value cursor =
      .ok (.again (value.pipeInto (segment.withNote ⟨segment.span, leading, trailing⟩) extra),
        next) := by
  unfold pipeRound
  rw [if_pos follows]
  refine Reading.bind_eq_ok.mpr ⟨(leading, start), before, ?_⟩
  refine Reading.bind_eq_ok.mpr ⟨(segment, afterSegment), commit_ok callee, ?_⟩
  refine Reading.bind_eq_ok.mpr ⟨(trailing, afterTrivia), after, ?_⟩
  exact Reading.bind_eq_ok.mpr ⟨(extra, next), read, rfl⟩

end

/-! ## Inner readers -/

theorem innerOf_pipeline {fuel : Nat} {setting : Setting} {cursor : Cursor}
    (positive : 0 < fuel) :
    (innerOf fuel).pipeline setting cursor = pipeline (innerOf (fuel - 1)) setting cursor := by
  cases fuel with
  | zero => omega
  | succ fuel => rfl

theorem innerOf_conditional {fuel : Nat} {setting : Setting} {cursor : Cursor}
    (positive : 0 < fuel) :
    (innerOf fuel).conditional setting cursor =
      conditional (innerOf (fuel - 1)) setting cursor := by
  cases fuel with
  | zero => omega
  | succ fuel => rfl

theorem innerOf_unary {fuel : Nat} {setting : Setting} {cursor : Cursor} (positive : 0 < fuel) :
    (innerOf fuel).unary setting cursor = unary (innerOf (fuel - 1)) setting cursor := by
  cases fuel with
  | zero => omega
  | succ fuel => rfl

/-! ## All rules -/

/-- Whatever has a derivation is given, if inner readers may go up often enough. -/
theorem readBy_of_derives {setting : Setting} {goal : Goal} {cursor next : Cursor}
    (derived : Derives setting goal cursor next) {fuel : Nat}
    (enough : cursor.room + goal.margin < fuel) :
    ReadBy (innerOf fuel) setting cursor next goal := by
  induction derived generalizing fuel with
  | paren opens content closes ih =>
    have inside := (isAt_passes opens (Reaches.refl _)).room_lt
    simp only [Goal.margin] at enough ih
    refine primary_paren opens ?_ closes
    rw [innerOf_pipeline (by omega)]
    exact ih (by omega)
  | array opens content ih =>
    have inside := (isAt_passes opens (Reaches.refl _)).room_lt
    simp only [Goal.margin] at enough ih
    exact primary_array opens (Reading.loop_of_rounds (ih (by omega) []))
  | word noParen noBracket starts read =>
    change primary _ _ _ = _
    unfold primary
    rw [noParen, noBracket, starts]
    exact read
  | literal noParen noBracket noWord read =>
    change primary _ _ _ = _
    unfold primary
    rw [noParen, noBracket, noWord]
    exact read
  | noSuffix noDot noBracket noParen =>
    exact Reading.rounds_of_done (suffixRound_done noDot noBracket noParen)
  | field dot read others ih =>
    have passes := isAt_passes dot (reaches_of_fieldKey read)
    have inside := passes.room_lt
    simp only [Goal.margin] at enough ih
    exact Reading.rounds_of_again (suffixRound_field dot read) passes (ih (by omega))
  | item opens content closes others ihContent ihOthers =>
    have passes := isAt_passes opens (content.reaches.trans (reaches_skip _ 1))
    have inside := (isAt_passes opens (Reaches.refl _)).room_lt
    have after := passes.room_lt
    simp only [Goal.margin] at enough ihContent ihOthers
    refine Reading.rounds_of_again (suffixRound_item opens ?_ closes) passes (ihOthers (by omega))
    rw [innerOf_pipeline (by omega)]
    exact ihContent (by omega)
  | call opens content others ihContent ihOthers =>
    have passes := isAt_passes opens content.reaches
    have inside := (isAt_passes opens (Reaches.refl _)).room_lt
    have after := passes.room_lt
    simp only [Goal.margin] at enough ihContent ihOthers
    have read := Reading.loop_of_rounds (@ihContent fuel (by omega) [])
    exact Reading.rounds_of_again (suffixRound_call opens read) passes (ihOthers (by omega))
  | suffixed start others ihStart ihOthers =>
    have after := start.reaches.room_le
    simp only [Goal.margin] at enough ihStart ihOthers
    exact Reading.bind_eq_ok.mpr ⟨_, ihStart enough, Reading.loop_of_rounds (ihOthers (by omega))⟩
  | updateBefore starts operand assignable ih =>
    have inside := (passes_of_updateOp starts).room_lt
    simp only [Goal.margin] at enough ih
    refine bareUpdate_before starts ?_ assignable
    rw [innerOf_unary (by omega)]
    exact ih (by omega)
  | updateAfter noneBefore operand follows assignable ih =>
    exact bareUpdate_after noneBefore (ih enough) follows assignable
  | noUpdate noneBefore operand noneAfter ih =>
    exact bareUpdate_none noneBefore (ih enough) noneAfter
  | operator someRoom before starts operand ih =>
    have inside := (passes_of_unaryOp starts).room_lt
    have start := (reaches_of_trivia before).room_le
    simp only [Goal.margin] at enough ih
    refine unary_operator someRoom before starts ?_
    rw [innerOf_unary (by omega)]
    exact ih (by omega)
  | operand someRoom before noOperator operand after ih =>
    have start := (reaches_of_trivia before).room_le
    simp only [Goal.margin] at enough ih
    exact unary_operand someRoom before noOperator (ih (by omega)) after
  | noInfix ends =>
    refine Reading.rounds_of_done ?_
    unfold infixRound
    rw [ends]
  | infixMore follows operand others ihOperand ihOthers =>
    have passes := (passes_of_infixOp follows).trans_reaches operand.reaches
    have inside := (passes_of_infixOp follows).room_lt
    have after := passes.room_lt
    simp only [Goal.margin] at enough ihOperand ihOthers
    refine Reading.rounds_of_again ?_ passes (ihOthers (by omega))
    unfold infixRound
    rw [follows]
    exact Reading.bind_eq_ok.mpr ⟨_, commit_ok (ihOperand (by omega)), rfl⟩
  | tightest operand ih => exact ih enough
  | tier start others ihStart ihOthers =>
    have after := start.reaches.room_le
    simp only [Goal.margin] at enough ihStart ihOthers
    exact Reading.bind_eq_ok.mpr ⟨_, ihStart enough, Reading.loop_of_rounds (ihOthers (by omega))⟩
  | test start ends ih =>
    refine Reading.bind_eq_ok.mpr ⟨_, ih enough, ?_⟩
    dsimp only
    rw [ends]
    rfl
  | choice start question first colon second ihStart ihFirst ihSecond =>
    have afterTest := start.reaches.room_le
    have inFirst := (isAt_passes question (Reaches.refl _)).room_lt
    have afterFirst := first.reaches.room_le
    have inSecond := (isAt_passes colon (Reaches.refl _)).room_lt
    simp only [Goal.margin] at enough ihStart ihFirst ihSecond
    refine conditional_choice (ihStart enough) question ?_ colon ?_
    · rw [innerOf_conditional (by omega)]
      exact ihFirst (by omega)
    · rw [innerOf_conditional (by omega)]
      exact ihSecond (by omega)
  | itemsEnd closes =>
    intro before
    refine Reading.rounds_of_done ?_
    unfold listRound
    dsimp only
    rw [closes, List.append_nil]
    rfl
  | @itemsLast setting close item cursor next notYet content noComma closes ih =>
    intro before
    have inside := (reaches_skipBlanks cursor).room_le
    simp only [Goal.margin] at enough ih
    refine Reading.rounds_of_done (listRound_last notYet ?_ noComma closes)
    rw [innerOf_conditional (by omega)]
    exact ih (by omega)
  | @itemsMore setting close item items cursor middle next notYet content comma others ihContent
      ihOthers =>
    intro before
    have inside := (reaches_skipBlanks cursor).room_le
    have passes : cursor.Passes (middle.skip 1) :=
      (reaches_skipBlanks cursor).trans_passes
        ((content.passes rfl).trans_reaches (reaches_skip _ 1))
    have after := passes.room_lt
    simp only [Goal.margin] at enough ihContent ihOthers
    have step : listRound (innerOf fuel) setting close before cursor =
        .ok (.again (before ++ [item]), middle.skip 1) := by
      refine listRound_more notYet ?_ comma
      rw [innerOf_conditional (by omega)]
      exact ihContent (by omega)
    have read := @ihOthers fuel (by omega) (before ++ [item])
    rw [List.append_assoc] at read
    exact Reading.rounds_of_again step passes read
  | noArgument ends =>
    intro before
    rw [List.append_nil]
    exact Reading.rounds_of_done (argumentRound_none ends)
  | refused starts refused =>
    intro before
    rw [List.append_nil]
    exact Reading.rounds_of_done (argumentRound_refused starts refused)
  | @argument setting argument arguments cursor middle next starts operand others ihOperand
      ihOthers =>
    intro before
    have passes := operand.passes rfl
    have after := passes.room_lt
    simp only [Goal.margin] at enough ihOperand ihOthers
    refine Reading.rounds_of_again (argumentRound_more starts (ihOperand enough)) passes ?_
    have read := @ihOthers fuel (by omega) (before ++ [argument])
    rwa [List.append_assoc] at read
  | noCommand start ends ih =>
    refine Reading.bind_eq_ok.mpr ⟨_, ih enough, ?_⟩
    dsimp only
    rw [ends]
    rfl
  | command start goesOn arguments ihStart ihArguments =>
    have after := start.reaches.room_le
    simp only [Goal.margin] at enough ihStart ihArguments
    refine Reading.bind_eq_ok.mpr ⟨_, ihStart enough, ?_⟩
    dsimp only
    rw [goesOn]
    exact Reading.bind_eq_ok.mpr ⟨_, Reading.loop_of_rounds (ihArguments (by omega) []), rfl⟩
  | noPipe ends =>
    refine Reading.rounds_of_done ?_
    unfold pipeRound
    rw [ends]
    rfl
  | pipe follows before callee after arguments others ihCallee ihArguments ihOthers =>
    have inPipe := (passes_of_pipe follows).room_lt
    have atSegment := (reaches_of_trivia before).room_le
    have afterSegment := callee.reaches.room_le
    have atArguments := (reaches_of_trivia after).room_le
    have passes := (passes_of_pipe follows).trans_reaches
      ((((reaches_of_trivia before).trans callee.reaches).trans (reaches_of_trivia after)).trans
        arguments.reaches)
    have inOthers := passes.room_lt
    simp only [Goal.margin] at enough ihCallee ihArguments ihOthers
    refine Reading.rounds_of_again ?_ passes (ihOthers (by omega))
    exact pipeRound_more follows before (ihCallee (by omega)) after
      (Reading.loop_of_rounds (ihArguments (by omega) []))
  | pipeline start others ihStart ihOthers =>
    have after := start.reaches.room_le
    simp only [Goal.margin] at enough ihStart ihOthers
    exact Reading.bind_eq_ok.mpr ⟨_, ihStart enough, Reading.loop_of_rounds (ihOthers (by omega))⟩

/-- An expression that has a derivation is read. -/
theorem expression_of_derives {setting : Setting} {expr : Expr} {cursor next : Cursor}
    (derived : Derives setting (.pipeline expr) cursor next) :
    expression setting cursor = .ok (expr, next) :=
  readBy_of_derives derived (Nat.lt_succ_self _)

end Grammar

end TemplateLang
