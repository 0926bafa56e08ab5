import TemplateLang.Proofs.Blanking.Operand
import TemplateLang.Proofs.Splitting.Clear
import TemplateLang.Syntax.Parts

/-!
# Splitting what the grammar reads

Wherever an expression is derived, its start is clear if its end is.  The tokens of the grammar
are those of the tokenizer with one exception: after a dot the grammar reads digits alone, where
the tokenizer reads a number that begins with a point and may have an exponent.  The two differ
only if the letter of an exponent directly follows such a key.
-/

namespace TemplateLang

open Cursor

namespace Expr

variable {source : List Char} {expr : Expr}

/-- The key of a member that is a position is not directly followed by the letter of an
exponent. -/
def KeyEnds (source : List Char) : Expr → Prop
  | field _ (.position _) keySpan _ =>
    (dropBytes keySpan.stop source).head? ≠ some 'e' ∧
      (dropBytes keySpan.stop source).head? ≠ some 'E'
  | _ => True

/-- All keys of an expression end so. -/
def KeysEnd (source : List Char) (expr : Expr) : Prop :=
  expr.Everywhere (KeyEnds source)

@[simp]
theorem keysEnd_withNote {note : Note} :
    (expr.withNote note).KeysEnd source ↔ expr.KeysEnd source := by
  have same : (expr.withNote note).KeyEnds source ↔ expr.KeyEnds source := by
    cases expr with
    | field object key keySpan note => cases key <;> exact Iff.rfl
    | _ => exact Iff.rfl
  rw [KeysEnd, KeysEnd, everywhere_iff, everywhere_iff, same, children_withNote]

@[simp]
theorem keysEnd_addLeading {comments : List Comment} :
    (expr.addLeading comments).KeysEnd source ↔ expr.KeysEnd source :=
  keysEnd_withNote

@[simp]
theorem keysEnd_addTrailing {comments : List Comment} :
    (expr.addTrailing comments).KeysEnd source ↔ expr.KeysEnd source :=
  keysEnd_withNote

/-- The keys of a call are those of its callee and of its arguments. -/
theorem keysEnd_call {callee : Expr} {arguments : List Expr} {isPiped : Bool} {note : Note} :
    (call callee arguments isPiped note).KeysEnd source ↔
      callee.KeysEnd source ∧ ∀ argument ∈ arguments, argument.KeysEnd source := by
  rw [KeysEnd, everywhere_iff, children, List.forall_mem_cons]
  exact ⟨And.right, fun below => ⟨trivial, below⟩⟩

theorem KeysEnd.of_applyTo {callee : Expr} {first extra : List Expr} {isPiped : Bool} {span : Span}
    (keysEnd : (callee.applyTo first extra isPiped span).KeysEnd source) :
    callee.KeysEnd source ∧ (∀ argument ∈ first, argument.KeysEnd source) ∧
      ∀ argument ∈ extra, argument.KeysEnd source := by
  rcases applyTo_cases callee first extra isPiped span with
    ⟨inner, arguments, note, -, rfl, same⟩ | same
  all_goals rw [same, keysEnd_call] at keysEnd
  · simp only [List.mem_append, or_imp, forall_and] at keysEnd
    exact ⟨keysEnd_call.mpr ⟨keysEnd.1, keysEnd.2.1.2⟩, keysEnd.2.1.1, keysEnd.2.2⟩
  · simpa only [List.mem_append, or_imp, forall_and] using keysEnd

end Expr

namespace Grammar

open Tokenizer

variable {setting : Setting} {source : List Char} {cursor middle next : Cursor}

/-! ## Marks and operators -/

theorem clear_of_isAt (p : Punctuator) {c : Char} (single : p.symbol.toList = [c])
    (noSign : isSign c = false) (others : Clear (cursor.skip 1))
    (isAt : cursor.isAt [c] = true) (stands : p.Stands (cursor.skip 1).rest) : Clear cursor := by
  rcases isAt_singleton_iff.mp isAt with ⟨rest, starts⟩
  have restEq : (cursor.skip 1).rest = rest := by rw [rest_skip, starts]; rfl
  rw [restEq] at stands
  refine Clear.of_punctuator p (single ▸ others) ?_ stands ?_
  · rw [single, starts]
    rfl
  · simpa [single] using noSign

theorem clear_of_updateOp (standard : setting.tags = Delimiters.standard) {op : UpdateOp}
    (starts : updateOp? setting cursor.rest = some op) (others : Clear (cursor.skip 2)) :
    Clear cursor := by
  have behind : (cursor.skip 1).skip 1 = cursor.skip 2 := skip_skip cursor 1 1
  cases updateOp?_eq_some_iff.mp starts with
  | @increment rest restEq =>
    have restEq' : (cursor.skip 1).rest = '+' :: rest := by rw [rest_skip, restEq]; rfl
    have first : Clear (cursor.skip 1) := by
      refine Clear.of_sign (behind ▸ others) restEq' (.inl rfl) ?_
      rw [restEq']
      exact atClosing_eq_false rfl (by decide) fun same => absurd same (by decide)
    refine first.of_sign restEq (.inl rfl) ?_
    rw [restEq]
    exact atClosing_eq_false rfl (by decide) fun same => absurd same (by decide)
  | @decrement rest restEq goesOn =>
    have restEq' : (cursor.skip 1).rest = '-' :: rest := by rw [rest_skip, restEq]; rfl
    have first : Clear (cursor.skip 1) := by
      refine Clear.of_sign (behind ▸ others) restEq' (.inr rfl) ?_
      rwa [restEq', ← closes_of_tags standard]
    refine first.of_sign restEq (.inr rfl) ?_
    rw [restEq]
    exact atClosing_eq_false rfl (by decide) (by simp)

theorem clear_of_unaryOp (standard : setting.tags = Delimiters.standard) {op : UnaryOp}
    (starts : unaryOp? setting cursor.rest = some op) (others : Clear (cursor.skip 1)) :
    Clear cursor := by
  cases unaryOp?_eq_some_iff.mp starts with
  | plus restEq =>
    refine others.of_sign restEq (.inl rfl) ?_
    rw [restEq]
    exact atClosing_eq_false rfl (by decide) fun same => absurd same (by decide)
  | minus restEq _ goesOn =>
    refine others.of_sign restEq (.inr rfl) ?_
    rwa [← closes_of_tags standard]
  | complement restEq =>
    exact clear_of_isAt .tilde rfl rfl others (isAt_singleton_iff.mpr ⟨_, restEq⟩) trivial
  | negate restEq notEqual =>
    refine clear_of_isAt .bang rfl rfl others (isAt_singleton_iff.mpr ⟨_, restEq⟩) ?_
    change (cursor.skip 1).rest.head? ≠ some '='
    rwa [rest_skip, restEq, List.drop_succ_cons, List.drop_zero]

/-- Where an operand begins after blanks and comments, no operator goes on. -/
theorem head_ne_equal {comments : List Comment} {start : Cursor}
    (before : TemplateLang.trivia cursor = .ok (comments, start))
    (begins : StartsOperand setting start.rest) : cursor.rest.head? ≠ some '=' := by
  intro isEqual
  rcases List.head?_eq_some_iff.mp isEqual with ⟨rest, restEq⟩
  have settled : cursor.Settled := settled_of_rest restEq (by decide) (by decide)
  rw [trivia_of_settled settled before, restEq] at begins
  cases begins with
  | primary same starts =>
    rcases List.cons.inj same with ⟨rfl, -⟩
    exact absurd starts (by decide)
  | point same => exact absurd (List.cons.inj same).1 (by decide)
  | update starts => simp [updateOp?] at starts
  | operator starts => simp [unaryOp?] at starts

/-- The punctuator that an operator between operands is written as. -/
def InfixOp.punctuator : InfixOp → Punctuator
  | .logical .or => .or
  | .logical .and => .and
  | .binary .equal => .equal
  | .binary .notEqual => .notEqual
  | .binary .less => .less
  | .binary .greater => .greater
  | .binary .lessEqual => .lessEqual
  | .binary .greaterEqual => .greaterEqual
  | .binary .add => .plus
  | .binary .subtract => .minus
  | .binary .multiply => .star
  | .binary .divide => .slash
  | .binary .remainder => .percent

theorem InfixOp.symbol_punctuator (op : InfixOp) : op.punctuator.symbol = op.symbol := by
  rcases op with op | op <;> cases op <;> rfl

theorem clear_of_infixOp (standard : setting.tags = Delimiters.standard)
    {tier : List InfixOp} {op : InfixOp} (follows : infixOp? setting tier cursor.rest = some op)
    (noEqual : (cursor.skip op.symbol.length).rest.head? ≠ some '=')
    (others : Clear (cursor.skip op.symbol.length)) : Clear cursor := by
  rcases infixOp?_eq_some_iff.mp follows with ⟨noClosing, noComment, -⟩
  rw [closes_of_tags standard] at noClosing
  rcases symbol_of_infixOp? follows with ⟨after, starts⟩
  have behind : (cursor.skip op.symbol.length).rest = after := by
    rw [rest_skip, ← starts, ← String.length_toList, List.drop_left]
  rw [behind] at noEqual
  -- Signs may pair up, and of the others only a few look at what follows.
  have plain (stands : op.punctuator.Stands after)
      (noSign : op.punctuator.symbol.toList.all (!isSign ·) = true) :
      Clear cursor := by
    refine Clear.of_punctuator op.punctuator ?_ ?_ stands noSign
    · rwa [op.symbol_punctuator, String.length_toList]
    · rw [op.symbol_punctuator, starts]
  rcases op with op | op
  · cases op with
    | add => exact others.of_sign starts.symm (.inl rfl) noClosing
    | subtract => exact others.of_sign starts.symm (.inr rfl) noClosing
    | less | greater => exact plain noEqual rfl
    | divide =>
      refine plain ?_ rfl
      rintro isStar
      rcases List.head?_eq_some_iff.mp isStar with ⟨rest, rfl⟩
      rw [← starts] at noComment
      simp [Literal.commentOpening, BinaryOp.symbol, InfixOp.symbol] at noComment
    | _ => exact plain trivial rfl
  · cases op <;> exact plain trivial rfl

/-! ## Leaves -/

theorem clear_of_literal {expr : Expr} (read : literal cursor = .ok (expr, next))
    (others : Clear next) : Clear cursor := by
  rcases literal_eq_ok.mp read with ⟨value, quote, found, -⟩ | ⟨-, value, found, -⟩
  · exact others.of_string found
  · exact others.of_number found

/-- Digits behind a point are a number, if no exponent follows. -/
theorem number_of_position (dot : cursor.isAt ['.'] = true)
    (someDigits : Literal.decimalDigits (cursor.skip 1) ≠ [])
    (nextEq : next = (cursor.skip 1).skip (Literal.decimalDigits (cursor.skip 1)).length)
    (noExponent : next.rest.head? ≠ some 'e' ∧ next.rest.head? ≠ some 'E') :
    ∃ value, Literal.number cursor = .found value next := by
  rcases isAt_singleton_iff.mp dot with ⟨rest, starts⟩
  have whole : Literal.decimalDigits cursor = [] := by simp [Literal.decimalDigits, starts]
  have fraction : Literal.fractionPart cursor = (Literal.decimalDigits (cursor.skip 1), next) := by
    simp only [Literal.fractionPart, starts, nextEq]
  have power : Literal.exponentPart cursor next = .found 0 next := by
    unfold Literal.exponentPart
    split
    · rename_i letter
      exact absurd letter noExponent.1
    · rename_i letter
      exact absurd letter noExponent.2
    · rfl
  have isDecimal : Literal.startsDecimal cursor.rest = true := by
    rw [starts]
    cases rest with
    | nil => simp [Literal.decimalDigits, starts] at someDigits
    | cons d rest =>
      rw [← Bool.not_eq_false]
      intro noDigit
      have noDigit' : d.isDigit = false := noDigit
      simp [Literal.decimalDigits, starts, noDigit'] at someDigits
  refine ⟨Number.ofDecimal false ⟨naturalOfDigits 10 (Literal.decimalDigits (cursor.skip 1)),
    -(Literal.decimalDigits (cursor.skip 1)).length⟩, ?_⟩
  have noBase : Literal.announced cursor.rest = none := by rw [starts]; rfl
  rw [Literal.number_eq, noBase]
  simp [isDecimal, Literal.decimal_eq, whole, fraction, power, Scan.map, Scan.andThen]

/-- A key is a word or a number for the tokenizer. -/
theorem clear_of_fieldKey {key : FieldKey} (dot : cursor.isAt ['.'] = true)
    (read : fieldKey (cursor.skip 1) = .ok (key, next))
    (noExponent : ∀ number, key = .position number →
      next.rest.head? ≠ some 'e' ∧ next.rest.head? ≠ some 'E')
    (others : Clear next) : Clear cursor := by
  rcases fieldKey_eq_ok.mp read with ⟨name, atWord, -, rfl⟩ | ⟨-, someDigits, rfl, nextEq⟩
  · refine clear_of_isAt .dot rfl rfl (Clear.of_word others) dot ?_
    intro c isHead
    rcases word_starts atWord with ⟨d, rest, starts, isStart⟩
    rw [starts] at isHead
    rcases isHead with ⟨⟩
    exact not_isDigit_of_isWordStart isStart
  · rcases number_of_position dot someDigits nextEq (noExponent _ rfl) with ⟨value, found⟩
    exact others.of_number found

/-! ## Expressions -/

/-- The start of what is derived is clear if its end is, where the keys of it end.  What has a
suffix, an operator or a pipe also has the keys of what these are applied to. -/
def Goal.Passed (source : List Char) (cursor next : Cursor) : Goal → Prop
  | .primary expr | .suffixed expr | .update expr | .unary expr | .joined _ expr
  | .conditional expr | .command expr | .pipeline expr =>
    expr.KeysEnd source → Clear next → Clear cursor
  | .suffixes head expr | .infixes _ _ head expr | .pipes head expr =>
    expr.KeysEnd source → head.KeysEnd source ∧ (Clear next → Clear cursor)
  | .items close exprs =>
    close = ')' ∨ close = ']' → (∀ expr ∈ exprs, expr.KeysEnd source) → Clear next → Clear cursor
  | .arguments exprs => (∀ expr ∈ exprs, expr.KeysEnd source) → Clear next → Clear cursor

theorem clear_of_close {close : Char} (isClose : close = ')' ∨ close = ']')
    (others : Clear (cursor.skip 1)) (isAt : cursor.isAt [close] = true) : Clear cursor := by
  rcases isClose with rfl | rfl
  · exact clear_of_isAt .closeParen rfl rfl others isAt trivial
  · exact clear_of_isAt .closeBracket rfl rfl others isAt trivial

theorem clear_of_pipe (follows : atPipe setting cursor.rest = true)
    (others : Clear (cursor.skip 1)) : Clear cursor := by
  rcases atPipe_iff.mp follows with ⟨rest, restEq, noBar, -⟩
  refine clear_of_isAt .pipe rfl rfl others (isAt_singleton_iff.mpr ⟨_, restEq⟩) ?_
  change (cursor.skip 1).rest.head? ≠ some '|'
  rwa [rest_skip, restEq, List.drop_succ_cons, List.drop_zero]

theorem InfixOp.children_join (op : InfixOp) (left right : Expr) :
    (op.join left right).children = [left, right] := by
  cases op <;> rfl

theorem noExponent_of_keyEnds {object : Expr} {key : FieldKey} {note : Note}
    (inside : cursor.In source) (reaches : cursor.Reaches next)
    (keyEnds : (Expr.field object key (cursor.spanTo next) note).KeyEnds source) (number : Number)
    (isPosition : key = .position number) :
    next.rest.head? ≠ some 'e' ∧ next.rest.head? ≠ some 'E' := by
  subst isPosition
  rcases inside.reaches reaches with ⟨before, sourceEq, offsetEq⟩
  have behind : dropBytes (cursor.spanTo next).stop source = next.rest := by
    rw [stop_spanTo reaches, offsetEq, sourceEq, dropBytes_append]
  rw [← behind]
  exact keyEnds

theorem Derives.passed {goal : Goal} (derived : Derives setting goal cursor next)
    (standard : setting.tags = Delimiters.standard) (inside : cursor.In source) :
    goal.Passed source cursor next := by
  induction derived with
  | paren opens content closed ih =>
    intro keysEnd clear
    have inner := keysEnd.child (List.mem_singleton_self _)
    have atClose := clear_of_close (.inl rfl) clear closed
    have start := ih standard (inside.reaches (reaches_skip _ 1)) inner atClose
    exact clear_of_isAt .openParen rfl rfl start opens trivial
  | array opens content ih =>
    intro keysEnd clear
    have start := ih standard (inside.reaches (reaches_skip _ 1)) (.inr rfl)
      (fun item isItem => keysEnd.child isItem) clear
    exact clear_of_isAt .openBracket rfl rfl start opens trivial
  | word _ _ _ read =>
    intro _ clear
    rw [reaches_of_wordExpr read] at clear
    exact clear.of_word
  | literal _ _ _ read => exact fun _ => clear_of_literal read
  | noSuffix => exact fun keysEnd => ⟨keysEnd, id⟩
  | field dot read others ih =>
    intro keysEnd
    have reaches := reaches_of_fieldKey read
    have atKey := inside.reaches (reaches_skip _ 1)
    rcases ih standard (atKey.reaches reaches) keysEnd with ⟨keysEnd', clearKey⟩
    refine ⟨keysEnd'.child (List.mem_singleton_self _), fun clear => ?_⟩
    exact clear_of_fieldKey dot read (noExponent_of_keyEnds atKey reaches keysEnd'.here)
      (clearKey clear)
  | item opens content closed others ih ihOthers =>
    intro keysEnd
    have atKey := inside.reaches (reaches_skip _ 1)
    have atOthers := (atKey.reaches content.reaches).reaches (reaches_skip _ 1)
    rcases ihOthers standard atOthers keysEnd with ⟨keysEnd', clearOthers⟩
    refine ⟨keysEnd'.child (by simp [Expr.children]), fun clear => ?_⟩
    have atClose := clear_of_close (.inr rfl) (clearOthers clear) closed
    have start := ih standard atKey (keysEnd'.child (by simp [Expr.children])) atClose
    exact clear_of_isAt .openBracket rfl rfl start opens trivial
  | call opens content others ih ihOthers =>
    intro keysEnd
    have atItems := inside.reaches (reaches_skip _ 1)
    rcases ihOthers standard (atItems.reaches content.reaches) keysEnd with ⟨keysEnd', clearOthers⟩
    rcases Expr.keysEnd_call.mp keysEnd' with ⟨callee, arguments⟩
    refine ⟨callee, fun clear => ?_⟩
    have start := ih standard atItems (.inl rfl) arguments (clearOthers clear)
    exact clear_of_isAt .openParen rfl rfl start opens trivial
  | suffixed start others ih ihOthers =>
    intro keysEnd clear
    rcases ihOthers standard (inside.reaches start.reaches) keysEnd with ⟨keysEnd', clearOthers⟩
    exact ih standard inside keysEnd' (clearOthers clear)
  | updateBefore starts operand _ ih =>
    intro keysEnd clear
    have target := keysEnd.child (List.mem_singleton_self _)
    exact clear_of_updateOp standard starts
      (ih standard (inside.reaches (reaches_skip _ 2)) target clear)
  | updateAfter _ operand follows _ ih =>
    intro keysEnd clear
    have target := keysEnd.child (List.mem_singleton_self _)
    exact ih standard inside target (clear_of_updateOp standard follows clear)
  | noUpdate _ _ _ ih => exact ih standard inside
  | operator _ before starts operand ih =>
    intro keysEnd clear
    rw [Expr.keysEnd_addLeading] at keysEnd
    have argument := keysEnd.child (List.mem_singleton_self _)
    have atOperand := (inside.reaches (reaches_of_trivia before)).reaches (reaches_skip _ 1)
    exact (clear_of_unaryOp standard starts (ih standard atOperand argument clear)).of_trivia before
  | operand _ before _ operand after ih =>
    intro keysEnd clear
    rw [Expr.keysEnd_addLeading, Expr.keysEnd_addTrailing] at keysEnd
    have atOperand := inside.reaches (reaches_of_trivia before)
    exact (ih standard atOperand keysEnd (clear.of_trivia after)).of_trivia before
  | noInfix => exact fun keysEnd => ⟨keysEnd, id⟩
  | @infixMore _ _ _ op left right _ _ _ _ follows operand others ih ihOthers =>
    intro keysEnd
    have atOperand := inside.reaches (reaches_skip _ op.symbol.length)
    rcases ihOthers standard (atOperand.reaches operand.reaches) keysEnd with
      ⟨keysEnd', clearOthers⟩
    have sides : ∀ side ∈ (op.join left right).children, side.KeysEnd source :=
      fun _ => keysEnd'.child
    rw [op.children_join] at sides
    rcases operand.begins with ⟨comments, start, before, begins⟩
    refine ⟨sides _ (by simp), fun clear => ?_⟩
    exact clear_of_infixOp standard follows (head_ne_equal before begins)
      (ih standard atOperand (sides _ (by simp)) (clearOthers clear))
  | tightest _ ih => exact ih standard inside
  | tier start others ih ihOthers =>
    intro keysEnd clear
    rcases ihOthers standard (inside.reaches start.reaches) keysEnd with ⟨keysEnd', clearOthers⟩
    exact ih standard inside keysEnd' (clearOthers clear)
  | test _ _ ih => exact ih standard inside
  | choice start question first colon second ih ihFirst ihSecond =>
    intro keysEnd clear
    have atFirst := (inside.reaches start.reaches).reaches (reaches_skip _ 1)
    have atSecond := (atFirst.reaches first.reaches).reaches (reaches_skip _ 1)
    rcases second.begins with ⟨comments, start', before, begins⟩
    have clearSecond := ihSecond standard atSecond (keysEnd.child (by simp [Expr.children])) clear
    have atColon := clear_of_isAt .colon rfl rfl clearSecond colon (head_ne_equal before begins)
    have clearFirst := ihFirst standard atFirst (keysEnd.child (by simp [Expr.children])) atColon
    exact ih standard inside (keysEnd.child (by simp [Expr.children]))
      (clear_of_isAt .question rfl rfl clearFirst question trivial)
  | itemsEnd closed =>
    intro isClose _ clear
    exact (clear_of_close isClose clear closed).of_blanks
  | itemsLast _ _ _ closed ih =>
    intro isClose keysEnd clear
    have atItem := inside.reaches (reaches_skipBlanks _)
    exact (ih standard atItem (keysEnd _ (by simp)) (clear_of_close isClose clear closed)).of_blanks
  | itemsMore _ content comma _ ih ihOthers =>
    intro isClose keysEnd clear
    have atItem := inside.reaches (reaches_skipBlanks _)
    have atOthers := (atItem.reaches content.reaches).reaches (reaches_skip _ 1)
    have clearOthers := ihOthers standard atOthers isClose
      (fun item isItem => keysEnd item (List.mem_cons_of_mem _ isItem)) clear
    have atComma := clear_of_isAt .comma rfl rfl clearOthers comma trivial
    exact (ih standard atItem (keysEnd _ (by simp)) atComma).of_blanks
  | noArgument | refused => exact fun _ => id
  | argument _ operand _ ih ihOthers =>
    intro keysEnd clear
    have clearOthers := ihOthers standard (inside.reaches operand.reaches)
      (fun item isItem => keysEnd item (List.mem_cons_of_mem _ isItem)) clear
    exact ih standard inside (keysEnd _ (by simp)) clearOthers
  | noCommand _ _ ih => exact ih standard inside
  | command start _ _ ih ihArguments =>
    intro keysEnd clear
    rcases keysEnd.of_applyTo with ⟨head, -, extra⟩
    exact ih standard inside head
      (ihArguments standard (inside.reaches start.reaches) extra clear)
  | noPipe => exact fun keysEnd => ⟨keysEnd, id⟩
  | pipe follows before callee after arguments others ih ihArguments ihOthers =>
    intro keysEnd
    have atSegment := (inside.reaches (reaches_skip _ 1)).reaches (reaches_of_trivia before)
    have atArguments := (atSegment.reaches callee.reaches).reaches (reaches_of_trivia after)
    rcases ihOthers standard (atArguments.reaches arguments.reaches) keysEnd with
      ⟨keysEnd', clearOthers⟩
    rcases keysEnd'.of_applyTo with ⟨segment, value, extra⟩
    rw [Expr.keysEnd_withNote] at segment
    refine ⟨value _ (by simp), fun clear => ?_⟩
    have clearArguments := ihArguments standard atArguments extra (clearOthers clear)
    have clearSegment := ih standard atSegment segment (clearArguments.of_trivia after)
    exact clear_of_pipe follows (clearSegment.of_trivia before)
  | pipeline start _ ih ihOthers =>
    intro keysEnd clear
    rcases ihOthers standard (inside.reaches start.reaches) keysEnd with ⟨keysEnd', clearOthers⟩
    exact ih standard inside keysEnd' (clearOthers clear)

end Grammar

end TemplateLang
