import TemplateLang.Proofs.RoundTrip.Statements

/-!
# Expressions with all operators in parentheses

Expressions in which every operator between operands, every conditional and every pipe stands
in parentheses of its own are read back from their printed text, to any size, as long as the
text does not nest operands too deeply.  The same spans are not to be expected, and a key that
can stand after a dot comes back there.
-/

namespace TemplateLang

/-! ## Nesting -/

mutual

/-- The levels of nesting that the text of an expression takes: the most operands that are
inside one another.  `top` tells that a pipe or a command may stand here. -/
def Expr.levels (top : Bool) : Expr → Nat
  | .null _ | .undefined _ | .boolean _ _ | .number _ _ | .text _ _ _ | .identifier _ _ => 1
  | .array items _ => levelsAll items + 1
  | .field object (.name _) _ _ => object.levels false
  | .field object (.position index) _ _ =>
    if Print.isDotIndex index then object.levels false else max (object.levels false) 2
  | .item object key _ =>
    if (fixedKey? key).isSome then object.levels false
    else max (object.levels false) (key.levels true + 1)
  | .call callee arguments isPiped _ =>
    if isPiped && top then
      match arguments with
      | [] => callee.levels false
      | value :: extra =>
        max (value.levels true) (max (callee.levels false - 1) (levelsAll extra))
    else if top && Print.isCommand callee arguments then
      max (callee.levels false) (levelsAll arguments)
    else max (callee.levels false) (levelsAll arguments + 1)
  | .unary _ argument _ | .update _ .before argument _ => argument.levels false + 1
  | .update _ .after argument _ => argument.levels false
  | .binary _ left right _ | .logical _ left right _ =>
    max (left.levels false) (right.levels false)
  | .conditional test consequent alternate _ =>
    max (test.levels false) (max (consequent.levels false) (alternate.levels false))
  | .paren inner _ => inner.levels true + 1

/-- The levels that the deepest of several expressions takes. -/
def levelsAll : List Expr → Nat
  | [] => 0
  | first :: rest => max (first.levels false) (levelsAll rest)

end

theorem Expr.levels_call (top : Bool) (callee : Expr) (arguments : List Expr) (note : Note) :
    (call callee arguments false note).levels top =
      if top && Print.isCommand callee arguments then
        max (callee.levels false) (levelsAll arguments)
      else max (callee.levels false) (levelsAll arguments + 1) := by
  cases arguments <;> rw [levels] <;> rfl

theorem Expr.levels_le_all {exprs : List Expr} {expr : Expr} (isIn : expr ∈ exprs) :
    expr.levels false ≤ levelsAll exprs := by
  induction exprs with
  | nil => exact absurd isIn List.not_mem_nil
  | cons first rest ih =>
    rw [levelsAll]
    rcases List.mem_cons.mp isIn with rfl | isIn
    · exact Nat.le_max_left _ _
    · exact Nat.le_trans (ih isIn) (Nat.le_max_right _ _)

namespace Grammar

open Cursor Print

variable {room : Nat} {note inner : Note}

/-! ## The expressions -/

/-- Expressions without comments whose operators between operands, conditionals and pipes are
in parentheses. -/
inductive Grouped : Expr → Prop where
  | null {note : Note} (bare : note.isBare = true) : Grouped (.null note)
  | undefined {note : Note} (bare : note.isBare = true) : Grouped (.undefined note)
  | boolean {value : Bool} {note : Note} (bare : note.isBare = true) :
      Grouped (.boolean value note)
  | number {n : Nat} {note : Note} (bare : note.isBare = true) (small : n < 10 ^ 15) :
      Grouped (.number (Number.ofInt n) note)
  | text {value : String} {quote : Quote} {note : Note} (bare : note.isBare = true) :
      Grouped (.text value quote note)
  | identifier {name : String} {note : Note} (bare : note.isBare = true)
      (shaped : isWordShaped name.toList = true) (free : isReserved name = false) :
      Grouped (.identifier name note)
  | binary {op : BinaryOp} {left right : Expr} {inner note : Note} (bareInner : inner.isBare = true)
      (bare : note.isBare = true) (first : Grouped left) (second : Grouped right) :
      Grouped (.paren (.binary op left right inner) note)
  | logical {op : LogicalOp} {left right : Expr} {inner note : Note}
      (bareInner : inner.isBare = true) (bare : note.isBare = true) (first : Grouped left)
      (second : Grouped right) : Grouped (.paren (.logical op left right inner) note)
  | conditional {test consequent alternate : Expr} {inner note : Note}
      (bareInner : inner.isBare = true) (bare : note.isBare = true) (start : Grouped test)
      (first : Grouped consequent) (second : Grouped alternate) :
      Grouped (.paren (.conditional test consequent alternate inner) note)
  | call {name : String} {arguments : List Expr} {inner note : Note}
      (bareInner : inner.isBare = true) (bare : note.isBare = true)
      (shaped : isWordShaped name.toList = true) (free : isReserved name = false)
      (content : ∀ argument ∈ arguments, Grouped argument) :
      Grouped (.call (.identifier name inner) arguments false note)
  | field {object : Expr} {name : String} {keySpan : Span} {inner note : Note}
      (bareInner : inner.isBare = true) (bare : note.isBare = true)
      (shaped : isWordShaped name.toList = true) (content : Grouped object) :
      Grouped (.field (.paren object inner) (.name name) keySpan note)
  | item {object key : Expr} {inner note : Note} (bareInner : inner.isBare = true)
      (bare : note.isBare = true) (content : Grouped object) (index : Grouped key) :
      Grouped (.item (.paren object inner) key note)
  | minus {argument : Expr} {inner note : Note} (bareInner : inner.isBare = true)
      (bare : note.isBare = true) (content : Grouped argument) :
      Grouped (.unary .minus (.paren argument inner) note)
  | negate {argument : Expr} {note : Note} (bare : note.isBare = true)
      (content : Grouped argument) : Grouped (.unary .negate argument note)
  | array {items : List Expr} {note : Note} (bare : note.isBare = true)
      (content : ∀ item ∈ items, Grouped item) : Grouped (.array items note)
  | pipe {name : String} {value argument : Expr} {nameNote inner note : Note}
      (bareName : nameNote.isBare = true) (bareInner : inner.isBare = true)
      (bare : note.isBare = true) (shaped : isWordShaped name.toList = true)
      (free : isReserved name = false) (first : Grouped value) (second : Grouped argument) :
      Grouped (.paren (.call (.identifier name nameNote) [value, argument] true inner) note)

theorem Grouped.isTight {expr : Expr} (grouped : Grouped expr) : Print.isTight expr = true := by
  cases grouped <;> rfl

theorem comments_eq_nil {exprs : List Expr}
    (each : ∀ expr ∈ exprs, expr.comments = []) : exprComments exprs = [] := by
  induction exprs with
  | nil => rfl
  | cons first rest ih =>
    rw [exprComments, each first List.mem_cons_self,
      ih fun expr isIn => each expr (List.mem_cons_of_mem first isIn)]
    rfl

theorem Grouped.comments {expr : Expr} (grouped : Grouped expr) : expr.comments = [] := by
  induction grouped with
  | call bareInner bare _ _ _ ih =>
    rw [Expr.comments_call, Expr.comments, Note.around_bare bare, Note.around_bare bareInner,
      comments_eq_nil ih]
    rfl
  | array bare _ ih => rw [Expr.comments, Note.around_bare bare, comments_eq_nil ih]
  | _ => simp_all [Expr.comments, Note.around_bare, exprComments]

/-! ## Their printed forms -/

theorem Written.joined_of_unary {expr : Expr} (content : Written room .unary expr)
    (levels : List (List InfixOp)) : Written room (.joined levels) expr := by
  induction levels with
  | nil => exact .tightest content
  | cons tier tighter ih => exact .looser ih

theorem Written.conditional_of_unary {expr : Expr} (content : Written room .unary expr) :
    Written room .conditional expr :=
  .test (content.joined_of_unary tiers)

theorem exists_tier (op : InfixOp) : ∃ tier ∈ tiers, op ∈ tier := by
  rcases op with op | op <;> cases op <;> decide

/-- Operands joined by any operator. -/
theorem Written.conditional_node {op : InfixOp} {left right : Expr} (bare : note.isBare = true)
    (first : Written room .unary left) (second : Written room .unary right) :
    Written room .conditional (op.node left right note) := by
  obtain ⟨tier, inTiers, isIn⟩ := exists_tier op
  obtain ⟨front, tighter, tiersEq⟩ := List.append_of_mem inTiers
  have joined : Written room (.joined (tier :: tighter)) (op.node left right note) :=
    .join bare ⟨front, tiersEq.symm⟩ isIn (first.joined_of_unary _) (second.joined_of_unary _)
  refine .test ?_
  rw [tiersEq]
  clear tiersEq
  induction front with
  | nil => exact joined
  | cons looser front ih => exact .looser ih

theorem closedNote_of_bare (bare : note.isBare = true) : ClosedNote note := by
  obtain ⟨noLeading, noTrailing⟩ : note.leading = [] ∧ note.trailing = [] := by
    simpa [Note.isBare] using bare
  simp [ClosedNote, noLeading, noTrailing]

theorem Written.unary_of_suffixed {expr : Expr} (content : Written room .suffixed expr)
    (bare : expr.note.isBare = true) : Written (room + 1) .unary expr := by
  have operand := Written.operand (closedNote_of_bare bare) content
  rwa [Expr.withNote_note] at operand

/-- An expression can be read back within the levels that its text takes. -/
structure Fits (expr : Expr) : Prop where
  top : ∀ room, expr.levels true ≤ room → Written room .pipeline expr
  inner : ∀ room, expr.levels false ≤ room → Written room .unary expr

theorem Fits.conditional {expr : Expr} (fits : Fits expr) (room : Nat)
    (shallow : expr.levels false ≤ room) : Written room .conditional expr :=
  (fits.inner room shallow).conditional_of_unary

theorem Fits.all {exprs : List Expr} (fits : ∀ expr ∈ exprs, Fits expr) (room : Nat)
    (shallow : levelsAll exprs ≤ room) : ∀ expr ∈ exprs, Written room .unary expr :=
  fun expr isIn => (fits expr isIn).inner room (Nat.le_trans (Expr.levels_le_all isIn) shallow)

/-- An operand that is printed alike everywhere. -/
theorem fits_of_unary {expr : Expr} (notSpread : expr.isSpread = false)
    (levelsEq : expr.levels true = expr.levels false)
    (content : ∀ room, expr.levels false ≤ room → Written room .unary expr) : Fits expr := by
  refine ⟨fun room shallow => ?_, content⟩
  exact .plain (content room (levelsEq ▸ shallow)).conditional_of_unary notSpread

theorem fits_of_suffixed {expr : Expr} (bare : expr.note.isBare = true)
    (notSpread : expr.isSpread = false) (levelsEq : expr.levels true = expr.levels false)
    (positive : 0 < expr.levels false)
    (content : ∀ room, expr.levels false ≤ room + 1 → Written room .suffixed expr) :
    Fits expr := by
  refine fits_of_unary notSpread levelsEq fun room shallow => ?_
  cases room with
  | zero => omega
  | succ room => exact (content room shallow).unary_of_suffixed bare

theorem fits_paren {expr : Expr} (bare : note.isBare = true)
    (content : ∀ room, expr.levels true ≤ room → Written room .pipeline expr) :
    Fits (.paren expr note) := by
  have levelsEq (top : Bool) : (Expr.paren expr note).levels top = expr.levels true + 1 := by
    rw [Expr.levels]
  refine fits_of_suffixed bare rfl (by rw [levelsEq, levelsEq]) (by simp [levelsEq]) ?_
  intro room shallow
  rw [levelsEq] at shallow
  exact .paren bare (content room (by omega))

/-- Two operands in parentheses. -/
theorem fits_node {op : InfixOp} {left right : Expr} (bareInner : inner.isBare = true)
    (bare : note.isBare = true) (first : Fits left) (second : Fits right) :
    Fits (.paren (op.node left right inner) note) := by
  refine fits_paren bare fun room shallow => ?_
  have shallow' : max (left.levels false) (right.levels false) ≤ room := by
    cases op <;> simpa only [InfixOp.node, Expr.levels] using shallow
  refine .plain (.conditional_node bareInner (first.inner room ?_) (second.inner room ?_)) ?_
  · omega
  · omega
  · cases op <;> rfl

theorem fits_call {name : String} {arguments : List Expr} (bareInner : inner.isBare = true)
    (bare : note.isBare = true) (shaped : isWordShaped name.toList = true)
    (free : isReserved name = false) (content : ∀ argument ∈ arguments, Fits argument) :
    Fits (.call (.identifier name inner) arguments false note) := by
  have enclosed : ∀ room, levelsAll arguments + 1 ≤ room →
      Written room .unary (.call (.identifier name inner) arguments false note) := by
    intro room shallow
    cases room with
    | zero => omega
    | succ room =>
      refine Written.unary_of_suffixed (.call bare (.identifier bareInner shaped free) ?_) bare
      intro argument isIn
      exact (Fits.all content room (by omega) argument isIn).conditional_of_unary
  have name_levels : (Expr.identifier name inner).levels false = 1 := by rw [Expr.levels]
  have insideEq : (Expr.call (.identifier name inner) arguments false note).levels false =
      max 1 (levelsAll arguments + 1) := by
    rw [Expr.levels_call, name_levels]
    rfl
  by_cases command : Print.isCommand (.identifier name inner) arguments = true
  · refine ⟨fun room shallow => ?_, fun room shallow => enclosed room (by omega)⟩
    rw [Expr.levels_call, command, name_levels] at shallow
    change max 1 (levelsAll arguments) ≤ room at shallow
    refine .command (closedNote_of_bare bare) ?_ (Fits.all content room (by omega)) command
    cases room with
    | zero => omega
    | succ room => exact Written.unary_of_suffixed (.identifier bareInner shaped free) bareInner
  · rw [Bool.not_eq_true] at command
    refine fits_of_unary ?_ ?_ fun room shallow => enclosed room (by omega)
    · rw [Expr.isSpread, command]
      rfl
    · rw [Expr.levels_call, Expr.levels_call, command]
      rfl

/-- A member of an expression in parentheses, in brackets or after a dot. -/
theorem fits_item {object key : Expr} (bare : note.isBare = true)
    (start : ∀ room, object.levels false ≤ room + 1 → Written room .suffixed object)
    (notNumber : isWholeNumber object = false) (positive : 0 < object.levels false)
    (index : Fits key) (dotKey : ∀ fixed, fixedKey? key = some fixed → DotKey fixed) :
    Fits (.item object key note) := by
  cases isFixed : fixedKey? key with
  | some fixed =>
    have levelsEq (top : Bool) : (Expr.item object key note).levels top = object.levels false := by
      simp [Expr.levels, isFixed]
    refine fits_of_suffixed bare rfl (by rw [levelsEq, levelsEq]) (by rwa [levelsEq]) ?_
    intro room shallow
    rw [levelsEq] at shallow
    exact .fixed bare (start room shallow) notNumber isFixed (dotKey fixed isFixed)
  | none =>
    have levelsEq (top : Bool) : (Expr.item object key note).levels top =
        max (object.levels false) (key.levels true + 1) := by
      simp [Expr.levels, isFixed]
    refine fits_of_suffixed bare rfl (by rw [levelsEq, levelsEq]) (by rw [levelsEq]; omega) ?_
    intro room shallow
    rw [levelsEq] at shallow
    exact .item bare (start room (by omega)) isFixed (index.top room (by omega))

theorem fits_pipe {name : String} {value argument : Expr} {nameNote : Note}
    (bareName : nameNote.isBare = true) (bareInner : inner.isBare = true)
    (bare : note.isBare = true) (shaped : isWordShaped name.toList = true)
    (free : isReserved name = false) (first : Fits value) (second : Fits argument)
    (tight : Print.isTight argument = true) :
    Fits (.paren (.call (.identifier name nameNote) [value, argument] true inner) note) := by
  refine fits_paren bare fun room shallow => ?_
  have levelsEq : (Expr.call (.identifier name nameNote) [value, argument] true inner).levels true =
      max (value.levels true) (max 0 (max (argument.levels false) 0)) := by
    rw [Expr.levels, Expr.levels, levelsAll, levelsAll]
    rfl
  rw [levelsEq] at shallow
  have pipe := Written.pipe bareInner (closedNote_of_bare bareName) (first.top room (by omega))
    (Written.identifier bareName shaped free)
    (fun other isIn => by
      obtain rfl := List.mem_singleton.mp isIn
      exact second.inner room (by omega))
    (by simp [isSimpleCallee, tight])
  exact pipe

theorem fits_leaf {expr : Expr} (bare : expr.note.isBare = true)
    (notSpread : expr.isSpread = false) (levelsEq : ∀ top, expr.levels top = 1)
    (content : ∀ room, Written room .suffixed expr) : Fits expr := by
  refine fits_of_suffixed bare notSpread ?_ ?_ fun room _ => content room
  · rw [levelsEq, levelsEq]
  · rw [levelsEq]
    exact Nat.one_pos

theorem fits_operator {op : UnaryOp} {argument : Expr} (bare : note.isBare = true)
    (content : Fits argument) : Fits (.unary op argument note) := by
  have levelsEq (top : Bool) : (Expr.unary op argument note).levels top =
      argument.levels false + 1 := by
    rw [Expr.levels]
  refine fits_of_unary rfl (by rw [levelsEq, levelsEq]) fun room shallow => ?_
  rw [levelsEq] at shallow
  cases room with
  | zero => omega
  | succ room =>
    have noTrailing : note.trailing = [] := by
      simp only [Note.isBare, Bool.and_eq_true, List.isEmpty_iff] at bare
      exact bare.2
    exact .operator (closedNote_of_bare bare) noTrailing (content.inner room (by omega))

/-- The keys that come to stand after a dot can stand there. -/
theorem dotKey_of_grouped {key : Expr} {fixed : FieldKey} (grouped : Grouped key)
    (isFixed : fixedKey? key = some fixed) : DotKey fixed := by
  cases fixedKey?_eq_some_iff.mp isFixed with
  | position =>
    cases grouped with
    | number _ small => exact .position small
  | name _ shaped => exact .name shaped

/-- Every grouped expression can be read back within the levels that its text takes. -/
theorem fits_of_grouped {expr : Expr} (grouped : Grouped expr) : Fits expr := by
  induction grouped with
  | null bare => exact fits_leaf bare rfl (fun _ => rfl) fun _ => .null bare
  | undefined bare => exact fits_leaf bare rfl (fun _ => rfl) fun _ => .undefined bare
  | boolean bare => exact fits_leaf bare rfl (fun _ => rfl) fun _ => .boolean bare
  | number bare small =>
    exact fits_leaf bare rfl (fun _ => rfl) fun _ => .number bare (Number.rereads_ofInt small)
  | text bare => exact fits_leaf bare rfl (fun _ => rfl) fun _ => .text bare
  | identifier bare shaped free =>
    exact fits_leaf bare rfl (fun _ => rfl) fun _ => .identifier bare shaped free
  | @binary op left right inner note bareInner bare _ _ ihLeft ihRight =>
    have fits : Fits (.paren ((InfixOp.binary op).node left right inner) note) :=
      fits_node bareInner bare ihLeft ihRight
    exact fits
  | @logical op left right inner note bareInner bare _ _ ihLeft ihRight =>
    have fits : Fits (.paren ((InfixOp.logical op).node left right inner) note) :=
      fits_node bareInner bare ihLeft ihRight
    exact fits
  | conditional bareInner bare _ _ _ ihTest ihFirst ihSecond =>
    refine fits_paren bare fun room shallow => ?_
    rw [Expr.levels] at shallow
    refine .plain (.choice bareInner ((ihTest.inner room ?_).joined_of_unary _)
      (ihFirst.conditional room ?_) (ihSecond.conditional room ?_)) rfl <;> omega
  | call bareInner bare shaped free _ ih => exact fits_call bareInner bare shaped free ih
  | field bareInner bare shaped _ ih =>
    refine fits_of_suffixed bare rfl (by simp [Expr.levels]) (by simp [Expr.levels]) ?_
    intro room shallow
    rw [Expr.levels, Expr.levels] at shallow
    exact .field bare (.paren bareInner (ih.top room (by omega))) rfl (.name shaped)
  | item bareInner bare _ index ihObject ihKey =>
    refine fits_item bare ?_ rfl (by simp [Expr.levels]) ihKey fun fixed isFixed =>
      dotKey_of_grouped index isFixed
    intro room shallow
    rw [Expr.levels] at shallow
    exact .paren bareInner (ihObject.top room (by omega))
  | minus bareInner bare _ ih => exact fits_operator bare (fits_paren bareInner ih.top)
  | negate bare _ ih => exact fits_operator bare ih
  | array bare _ ih =>
    refine fits_of_suffixed bare rfl (by simp [Expr.levels]) (by simp [Expr.levels]) ?_
    intro room shallow
    rw [Expr.levels] at shallow
    exact .array bare fun item isIn =>
      (Fits.all ih room (by omega) item isIn).conditional_of_unary
  | pipe bareName bareInner bare shaped free _ second ihValue ihArgument =>
    exact fits_pipe bareName bareInner bare shaped free ihValue ihArgument second.isTight

/-! ## A tag with an expression -/

/-- No word stops the elements of a whole source. -/
theorem atBlockWord_nil (setting : Setting) (cursor : Cursor) :
    atBlockWord setting [] cursor = false := by
  rw [Bool.eq_false_iff]
  intro atWord
  obtain ⟨_, _, _, -, -, isStop⟩ := atBlockWord_iff.mp atWord
  simp at isStop

end Grammar

open Grammar Cursor

/-- The text of a tag with an expression. -/
def Print.expressionTag (expr : Expr) : String :=
  "\x7b\x7b " ++ Print.expression true expr ++ " \x7d\x7d"

theorem Print.toList_expressionTag (expr : Expr) :
    (Print.expressionTag expr).toList =
      ['\x7b', '\x7b'] ++ (' ' :: (chars true expr ++ [' ', '\x7d', '\x7d'])) := by
  simp [expressionTag, chars]

/-- A tag with an expression that has no comments is read as that expression. -/
theorem parse_expressionTag {expr : Expr} (content : Reads maxNesting .pipeline expr)
    (noComments : expr.comments = []) :
    ∃ expr' opening closing span,
      parse .standard (Print.expressionTag expr).toList =
        .ok ⟨[.tag opening (.expression expr') closing span]⟩ ∧
      expr'.bare = expr.bare ∧ expr'.comments = [] ∧ opening.comments = [] ∧
      closing.comments = [] := by
  obtain ⟨before, body, spelled, read⟩ := content
  have standard : Standard (Setting.initial Delimiters.standard) maxNesting := ⟨rfl, rfl⟩
  generalize cursorEq : ofSource (Print.expressionTag expr).toList = cursor
  have restEq : cursor.rest = ['\x7b', '\x7b'] ++ (' ' :: (Print.leading before ++
      (body ++ ' ' :: ['\x7d', '\x7d']))) := by
    rw [← cursorEq]
    change (Print.expressionTag expr).toList = _
    rw [Print.toList_expressionTag, spelled.text]
    simp
  -- The places between the parts of the tag.
  obtain ⟨done, crosses, doneEq⟩ := crosses_all restEq
  obtain ⟨afterMark, mark, crosses⟩ := crosses.split
  obtain ⟨afterBlank, blank, crosses⟩ := crosses.head
  obtain ⟨start, comments, crosses⟩ := crosses.split
  obtain ⟨stop, crossesBody, crosses⟩ := crosses.split
  obtain ⟨next, blankAfter, closes⟩ := crosses.head
  have nextEq : next.rest = ['\x7d', '\x7d'] := by rw [closes.1, doneEq, List.append_nil]
  have closesMark : (Setting.initial Delimiters.standard).atClosing next.rest = true := by
    rw [nextEq]
    rfl
  have settledNext : next.Settled := settled_of_rest nextEq (by decide) (by decide)
  have stretch := crossesBody.stretch_blank blankAfter settledNext
  have settled := spelled.opens.settles.settled stretch
  -- The comments before the expression are those of the opening mark.
  obtain ⟨before', alike, between⟩ := between_leading spelled.closed comments
  obtain ⟨expr', pipeable, reread⟩ := read standard (stretch.lies settled)
    ⟨rfl, endsCommand_of_closing standard.1 closesMark⟩
  have lengths := reread.comments
  rw [noComments] at lengths
  simp only [List.length_nil] at lengths
  have noBefore : before' = [] := by
    rw [← List.length_eq_zero_iff, alike.length_eq]
    omega
  have opens := openingTag_reads false standard.1 mark
    (fun _ => isAt_eq_false blank.1 (by decide))
    (((between_blank blank).trans between).trivia settled)
  have closed := closingTag_reads false standard.1 settledNext.trivia closes
  have derived := pipeable _ _ (.noPipe (by rw [nextEq]; rfl))
  have notAtEnd : (Setting.initial Delimiters.standard).atClosing start.rest = false := by
    rw [crossesBody.1]
    exact (spelled.opens.append _).not_closing rfl
  have notColon : next.isAt [':', '='] = false := by
    rw [isAt, nextEq]
    rfl
  have goesOn : (cursor.rest.isEmpty ||
      atBlockWord (Setting.initial Delimiters.standard) [] cursor) = false := by
    rw [restEq, atBlockWord_nil]
    rfl
  have block := DerivesBlock.tag goesOn opens
    (derives_statement rfl settled derived notAtEnd notColon) closed
    (.elementsEnd (by rw [doneEq]; rfl))
  rw [← cursorEq] at block
  refine ⟨expr', _, _, _, parse_of_derivesBlock block, reread.bare, ?_, noBefore, rfl⟩
  rw [← List.length_eq_zero_iff]
  omega

/-- A grouped expression is read back from a tag with its text. -/
theorem parse_expressionTag_of_grouped {expr : Expr} (grouped : Grouped expr)
    (shallow : expr.levels true ≤ maxNesting) :
    ∃ expr' opening closing span,
      parse .standard (Print.expressionTag expr).toList =
        .ok ⟨[.tag opening (.expression expr') closing span]⟩ ∧
      expr'.bare = expr.bare ∧ expr'.comments = [] ∧ opening.comments = [] ∧
      closing.comments = [] :=
  parse_expressionTag (reads_of_written ((fits_of_grouped grouped).top maxNesting shallow))
    grouped.comments

/-- The negation of a member of the result of a command. -/
def negatedMember : Expr :=
  .unary .minus
    (.paren
      (.item
        (.paren (.call (.identifier "f" .blank)
          [.number (Number.ofInt 2) .blank, .text "b c" .single .blank] false .blank) .blank)
        (.text "key" .double .blank) .blank) .blank) .blank

/-- The member is printed after a dot, and it is read back there. -/
theorem parse_negatedMember :
    Grouped negatedMember ∧ negatedMember.levels true ≤ maxNesting ∧
    ∃ expr' opening closing span,
      parse .standard "\x7b\x7b -((f 2 'b c').key) \x7d\x7d".toList =
        .ok ⟨[.tag opening (.expression expr') closing span]⟩ ∧
      expr'.bare = negatedMember.bare ∧ expr'.comments = [] ∧ opening.comments = [] ∧
      closing.comments = [] := by
  have called : Grouped (.call (.identifier "f" .blank)
      [.number (Number.ofInt 2) .blank, .text "b c" .single .blank] false .blank) := by
    refine .call rfl rfl (by decide) (by decide) fun argument isIn => ?_
    rcases List.mem_cons.mp isIn with rfl | isIn
    · exact Grouped.number (n := 2) rfl (by decide)
    · obtain rfl := List.mem_singleton.mp isIn
      exact .text rfl
  have grouped : Grouped negatedMember := .minus rfl rfl (.item rfl rfl called (.text rfl))
  have shallow : negatedMember.levels true ≤ maxNesting := by decide
  have printed : Print.expressionTag negatedMember = "\x7b\x7b -((f 2 'b c').key) \x7d\x7d" := by
    decide +kernel
  have parsed := parse_expressionTag_of_grouped grouped shallow
  rw [printed] at parsed
  exact ⟨grouped, shallow, parsed⟩

end TemplateLang
