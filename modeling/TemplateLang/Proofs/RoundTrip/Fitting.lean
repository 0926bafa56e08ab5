import TemplateLang.Proofs.RoundTrip.Grouped
import TemplateLang.Proofs.RoundTrip.Numbers

/-!
# Expressions that fit their layer

An expression fits a layer of the grammar if the layer reads it back within the levels of
nesting that its text takes.  Here is what fits, one lemma for each form, built from what
fits inside.

Two forms are read as something else, and an expression without them is clear.  A dot after
a number that is printed in digits alone is the point of that number.  And a call that has a
comment beside it takes no further arguments in a command or a pipe, but is itself called.
-/

namespace TemplateLang

open Grammar Print

/-! ## Clear expressions -/

/-- Whether a key is printed after a dot. -/
def FieldKey.isDotted : FieldKey → Bool
  | .name _ => true
  | .position index => isDotIndex index

/-- Whether what is printed after an object is not read as part of it. -/
def Expr.takesMember (object : Expr) (isDotted : Bool) : Bool :=
  !(isDotted && isWholeNumber object)

/-- Whether the comments beside a callee do not keep arguments from it.  A command looks for
them after the callee and a pipe on both sides; neither asks when a variable or a member is
called. -/
def Expr.takesArguments (callee : Expr) (isPiped : Bool) : Bool :=
  isSimpleCallee callee ||
    (callee.note.trailing.isEmpty && (!isPiped || callee.note.leading.isEmpty))

mutual

/-- Whether an expression holds neither a member of a number in digits alone nor a call of a
call with comments beside it. -/
def Expr.isClear : Expr → Bool
  | .null _ | .undefined _ | .boolean _ _ | .number _ _ | .text _ _ _ | .identifier _ _ => true
  | .array items _ => allClear items
  | .field object key _ _ => object.isClear && object.takesMember key.isDotted
  | .item object key _ =>
    object.isClear && key.isClear && object.takesMember (fixedKey? key).isSome
  | .call callee arguments isPiped _ =>
    callee.isClear && allClear arguments && callee.takesArguments isPiped
  | .unary _ argument _ | .update _ _ argument _ => argument.isClear
  | .binary _ left right _ | .logical _ left right _ => left.isClear && right.isClear
  | .conditional test first second _ => test.isClear && first.isClear && second.isClear
  | .paren inner _ => inner.isClear

/-- Whether all of several expressions are clear. -/
def allClear : List Expr → Bool
  | [] => true
  | first :: rest => first.isClear && allClear rest

end

theorem allClear_eq_true {exprs : List Expr} :
    allClear exprs = true ↔ ∀ expr ∈ exprs, expr.isClear = true := by
  induction exprs with
  | nil => simp [allClear]
  | cons first rest ih => simp [allClear, ih]

namespace Expr

@[simp]
theorem isClear_array (items : List Expr) (note : Note) :
    (array items note).isClear = allClear items :=
  rfl

@[simp]
theorem isClear_field (object : Expr) (key : FieldKey) (keySpan : Span) (note : Note) :
    (field object key keySpan note).isClear =
      (object.isClear && object.takesMember key.isDotted) :=
  rfl

@[simp]
theorem isClear_item (object key : Expr) (note : Note) :
    (item object key note).isClear =
      (object.isClear && key.isClear && object.takesMember (fixedKey? key).isSome) :=
  rfl

@[simp]
theorem isClear_call (callee : Expr) (arguments : List Expr) (isPiped : Bool) (note : Note) :
    (call callee arguments isPiped note).isClear =
      (callee.isClear && allClear arguments && callee.takesArguments isPiped) :=
  rfl

@[simp]
theorem isClear_conditional (test first second : Expr) (note : Note) :
    (conditional test first second note).isClear =
      (test.isClear && first.isClear && second.isClear) :=
  rfl

@[simp]
theorem isClear_withNote (note : Note) (expr : Expr) :
    (expr.withNote note).isClear = expr.isClear := by
  cases expr <;> rfl

@[simp]
theorem levels_withNote (top : Bool) (note : Note) (expr : Expr) :
    (expr.withNote note).levels top = expr.levels top := by
  cases expr with
  | field object key => cases key <;> rfl
  | call callee arguments => cases arguments <;> rfl
  | update op place => cases place <;> rfl
  | _ => rfl

@[simp]
theorem isSimpleCallee_withNote (note : Note) (expr : Expr) :
    isSimpleCallee (expr.withNote note) = isSimpleCallee expr := by
  cases expr <;> rfl

@[simp]
theorem isTight_withNote (note : Note) (expr : Expr) :
    isTight (expr.withNote note) = isTight expr := by
  cases expr <;> rfl

@[simp]
theorem isSigned_withNote (note : Note) (expr : Expr) :
    isSigned (expr.withNote note) = isSigned expr := by
  cases expr with
  | unary op => cases op <;> rfl
  | update op place => cases place <;> rfl
  | _ => rfl

/-- The text of an operand takes one level at least. -/
theorem levels_pos : ∀ expr : Expr, 0 < expr.levels false
  | .null _ | .undefined _ | .boolean _ _ | .number _ _ | .text _ _ _ | .identifier _ _ =>
    Nat.one_pos
  | .array _ _ | .unary _ _ _ | .update _ .before _ _ | .paren _ _ => by
    rw [levels]
    exact Nat.succ_pos _
  | .field object key _ _ => by
    have first := levels_pos object
    cases key with
    | name => rwa [levels]
    | position index =>
      rw [levels]
      split <;> omega
  | .item object key _ => by
    have first := levels_pos object
    rw [levels]
    split <;> omega
  | .call callee arguments isPiped note => by
    have first := levels_pos callee
    have enclosed : (call callee arguments isPiped note).levels false =
        max (callee.levels false) (levelsAll arguments + 1) := by
      cases arguments <;> simp [levels]
    omega
  | .update _ .after argument _ => by
    rw [levels]
    exact levels_pos argument
  | .binary _ left right _ | .logical _ left right _ => by
    have first := levels_pos left
    rw [levels]
    omega
  | .conditional test _ _ _ => by
    have first := levels_pos test
    rw [levels]
    omega

/-- Only what is printed as a command or a pipe takes other levels where one may stand. -/
theorem levels_top {expr : Expr} (notSpread : expr.isSpread = false) :
    expr.levels true = expr.levels false := by
  cases expr with
  | field object key => cases key <;> simp only [levels]
  | update op place => cases place <;> simp only [levels]
  | call callee arguments isPiped note =>
    simp only [isSpread, Bool.or_eq_false_iff] at notSpread
    obtain ⟨rfl, notCommand⟩ := notSpread
    rw [levels_call, levels_call, notCommand]
    rfl
  | _ => simp only [levels]

end Expr

namespace Grammar

/-! ## Fitting a layer -/

/-- The levels of nesting at which a layer reads the text of an expression.  An expression
with suffixes is inside the level that its operand takes. -/
def Layer.levels (layer : Layer) (expr : Expr) : Nat :=
  match layer with
  | .suffixed => expr.levels false - 1
  | .pipeline => expr.levels true
  | .unary | .joined _ | .conditional => expr.levels false

/-- A clear expression is written for a layer within the levels that its text takes. -/
def Fitting (layer : Layer) (expr : Expr) : Prop :=
  expr.isClear = true → ∀ room, layer.levels expr ≤ room → Written room layer expr

/-- What fits as an argument in parentheses, and after a blank if it is no operation. -/
structure Argument (expr : Expr) : Prop where
  fits : Fitting .conditional expr
  tight : isTight expr = true → Fitting .unary expr

/-- What later rules use of the parts of an expression: the callee and the arguments of a
call fit by themselves, and a number is one that a literal writes. -/
def Parts : Expr → Prop
  | .number value _ => value.Unsigned
  | .call callee arguments isPiped _ =>
    isPiped = false ∧ callee.note.isBare = true ∧ Fitting .suffixed callee ∧
      ∀ argument ∈ arguments, Argument argument
  | _ => True

/-- An expression with suffixes that fits. -/
structure FitsSuffixed (expr : Expr) : Prop where
  bare : expr.note.isBare = true
  tight : isTight expr = true
  unsigned : isSigned expr = false
  fits : ∀ note, note.isBare = true → Fitting .suffixed (expr.withNote note)
  parts : Parts expr

/-- An expression of operands that fits. -/
structure FitsOperands (layer : Layer) (expr : Expr) : Prop where
  closed : ClosedNote expr.note
  fits : Fitting layer expr
  tight : isTight expr = true → Fitting .unary expr
  parts : Parts expr

/-- Keys after a dot as they are read. -/
inductive ReadKey : FieldKey → Prop where
  | name {word : String} (shaped : isWordShaped word.toList = true) : ReadKey (.name word)
  | position {index : Number} (isUnsigned : index.Unsigned) : ReadKey (.position index)

/-- An expression of a tag or of parentheses that fits. -/
structure FitsPipeline (expr : Expr) : Prop where
  fits : Fitting .pipeline expr
  keyed : ∀ fixed, fixedKey? expr = some fixed → DotKey fixed

theorem FitsSuffixed.fitting {expr : Expr} (fits : FitsSuffixed expr) : Fitting .suffixed expr := by
  have same := fits.fits expr.note fits.bare
  rwa [Expr.withNote_note] at same

theorem ReadKey.dotKey {key : FieldKey} (read : ReadKey key) (dotted : key.isDotted = true) :
    DotKey key := by
  cases read with
  | name shaped => exact .name shaped
  | position isUnsigned =>
    obtain ⟨n, small, rfl⟩ := Number.eq_ofInt_of_isDotIndex isUnsigned dotted
    exact .position small

/-- A literal that is printed after a dot is read there. -/
theorem Parts.keyed {expr : Expr} (parts : Parts expr) (fixed : FieldKey)
    (isFixed : fixedKey? expr = some fixed) : DotKey fixed := by
  cases fixedKey?_eq_some_iff.mp isFixed with
  | position _ isDot => exact (ReadKey.position parts).dotKey isDot
  | name _ shaped => exact .name shaped

variable {note : Note}

/-! ### Primary expressions -/

theorem fitting_of_written {layer : Layer} {expr : Expr}
    (written : ∀ room, Written room layer expr) : Fitting layer expr :=
  fun _ room _ => written room

theorem fitsSuffixed_leaf {expr : Expr} (bare : expr.note.isBare = true)
    (tight : isTight expr = true) (unsigned : isSigned expr = false) (parts : Parts expr)
    (written : ∀ room note, note.isBare = true → Written room .suffixed (expr.withNote note)) :
    FitsSuffixed expr :=
  ⟨bare, tight, unsigned, fun _ bare => fitting_of_written fun room => written room _ bare, parts⟩

theorem fitsSuffixed_array {items : List Expr} (bare : note.isBare = true)
    (content : ∀ item ∈ items, Argument item) : FitsSuffixed (.array items note) := by
  refine ⟨bare, rfl, rfl, fun note bare clear room shallow => ?_, trivial⟩
  simp only [Expr.withNote, Expr.isClear_array, allClear_eq_true] at clear
  simp only [Layer.levels, Expr.withNote, Expr.levels] at shallow
  refine .array bare fun item isIn => (content item isIn).fits (clear item isIn) room ?_
  have inside := Expr.levels_le_all isIn
  simp only [Layer.levels]
  omega

theorem fitsSuffixed_paren {inner : Expr} (bare : note.isBare = true)
    (content : Fitting .pipeline inner) : FitsSuffixed (.paren inner note) := by
  refine ⟨bare, rfl, rfl, fun note bare clear room shallow => ?_, trivial⟩
  simp only [Layer.levels, Expr.withNote, Expr.levels] at shallow
  exact .paren bare (content clear room (by simpa [Layer.levels] using shallow))

/-! ### Members and calls -/

theorem not_wholeNumber {object : Expr} {isDotted : Bool}
    (takes : object.takesMember isDotted = true) (dotted : isDotted = true) :
    isWholeNumber object = false := by
  subst dotted
  simpa [Expr.takesMember] using takes

theorem fitsSuffixed_field {object : Expr} {key : FieldKey} {keySpan : Span}
    (bare : note.isBare = true) (start : FitsSuffixed object) (read : ReadKey key) :
    FitsSuffixed (.field object key keySpan note) := by
  refine ⟨bare, rfl, rfl, fun note bare clear room shallow => ?_, trivial⟩
  simp only [Expr.withNote, Expr.isClear_field, Bool.and_eq_true] at clear
  obtain ⟨clearObject, takes⟩ := clear
  have written (shallow : object.levels false - 1 ≤ room) : Written room .suffixed object :=
    start.fitting clearObject room shallow
  cases dotted : key.isDotted with
  | true =>
    have levelsEq : (Expr.field object key keySpan note).levels false = object.levels false := by
      cases key with
      | name => rw [Expr.levels]
      | position index => exact (Expr.levels.eq_def _ _).trans (if_pos dotted)
    refine .field bare (written ?_) (not_wholeNumber takes dotted) (read.dotKey dotted)
    simp only [Layer.levels, Expr.withNote, levelsEq] at shallow
    exact shallow
  | false =>
    cases read with
    | name => simp [FieldKey.isDotted] at dotted
    | @position index isUnsigned =>
      have notDot : isDotIndex index = false := dotted
      simp only [Layer.levels, Expr.withNote, Expr.levels, notDot] at shallow
      rw [if_neg Bool.false_ne_true] at shallow
      refine .position bare (written (by omega)) notDot (.plain (.test ?_) rfl)
      cases room with
      | zero => omega
      | succ room =>
        have number : Written room .suffixed (.number index .blank) :=
          .number rfl isUnsigned.rereads
        exact (number.unary_of_suffixed rfl).joined_of_unary tiers

theorem fitsSuffixed_item {object key : Expr} (bare : note.isBare = true)
    (start : FitsSuffixed object) (content : FitsPipeline key) :
    FitsSuffixed (.item object key note) := by
  refine ⟨bare, rfl, rfl, fun note bare clear room shallow => ?_, trivial⟩
  simp only [Expr.withNote, Expr.isClear_item, Bool.and_eq_true] at clear
  obtain ⟨⟨clearObject, clearKey⟩, takes⟩ := clear
  simp only [Layer.levels, Expr.withNote, Expr.levels] at shallow
  cases isFixed : fixedKey? key with
  | some fixed =>
    simp only [isFixed, Option.isSome_some, if_true] at shallow takes
    exact .fixed bare (start.fitting clearObject room shallow) (not_wholeNumber takes rfl) isFixed
      (content.keyed fixed isFixed)
  | none =>
    simp only [isFixed, Option.isSome_none, Bool.false_eq_true, if_false] at shallow
    refine .item bare (start.fitting clearObject room ?_) isFixed (content.fits clearKey room ?_)
    · simp only [Layer.levels]
      omega
    · simp only [Layer.levels]
      omega

theorem fitsSuffixed_call {callee : Expr} {arguments : List Expr} (bare : note.isBare = true)
    (bareCallee : callee.note.isBare = true) (start : Fitting .suffixed callee)
    (content : ∀ argument ∈ arguments, Argument argument) :
    FitsSuffixed (.call callee arguments false note) := by
  refine ⟨bare, rfl, rfl, fun note bare clear room shallow => ?_,
    rfl, bareCallee, start, content⟩
  simp only [Expr.withNote, Expr.isClear_call, Bool.and_eq_true, allClear_eq_true] at clear
  obtain ⟨⟨clearCallee, clearArguments⟩, -⟩ := clear
  simp only [Layer.levels, Expr.withNote, Expr.levels_call, Bool.false_and] at shallow
  rw [if_neg Bool.false_ne_true] at shallow
  refine .call bare (start clearCallee room ?_) fun argument isIn =>
    (content argument isIn).fits (clearArguments argument isIn) room ?_
  · simp only [Layer.levels]
    omega
  · have inside := Expr.levels_le_all isIn
    simp only [Layer.levels]
    omega

/-! ### Operands -/

@[simp]
theorem parts_withNote (note : Note) (expr : Expr) : Parts (expr.withNote note) ↔ Parts expr := by
  cases expr <;> rfl

theorem fitsOperands_operand {expr : Expr} (operand : FitsSuffixed expr)
    (closed : ClosedNote note) :
    FitsOperands .unary (expr.withNote note) := by
  have fits : Fitting .unary (expr.withNote note) := by
    intro clear room shallow
    rw [Expr.isClear_withNote] at clear
    simp only [Layer.levels, Expr.levels_withNote] at shallow
    have positive := expr.levels_pos
    obtain ⟨room, rfl⟩ : ∃ less, room = less + 1 := ⟨room - 1, by omega⟩
    refine .operand closed (operand.fitting clear room ?_)
    simp only [Layer.levels]
    omega
  exact ⟨by rwa [Expr.note_withNote], fits, fun _ => fits, (parts_withNote _ _).mpr operand.parts⟩

theorem FitsSuffixed.operands {expr : Expr} (operand : FitsSuffixed expr) :
    FitsOperands .unary expr := by
  have whole := fitsOperands_operand operand (closedNote_of_bare operand.bare)
  rwa [Expr.withNote_note] at whole

theorem fitsOperands_updateAfter {op : UpdateOp} {target : Expr} (operand : FitsSuffixed target)
    (closed : ClosedNote note) (assignable : target.isAssignable = true) :
    FitsOperands .unary (.update op .after target note) := by
  have fits : Fitting .unary (.update op .after target note) := by
    intro clear room shallow
    simp only [Layer.levels, Expr.levels] at shallow
    have positive := target.levels_pos
    obtain ⟨room, rfl⟩ : ∃ less, room = less + 1 := ⟨room - 1, by omega⟩
    refine .updateAfter closed (operand.fitting clear room ?_) assignable
    simp only [Layer.levels]
    omega
  exact ⟨closed, fits, fun _ => fits, trivial⟩

theorem fitsOperands_updateBefore {op : UpdateOp} {target : Expr} (operand : Fitting .unary target)
    (closed : ClosedNote note) (noTrailing : note.trailing = [])
    (assignable : target.isAssignable = true) :
    FitsOperands .unary (.update op .before target note) := by
  have fits : Fitting .unary (.update op .before target note) := by
    intro clear room shallow
    simp only [Layer.levels, Expr.levels] at shallow
    obtain ⟨room, rfl⟩ : ∃ less, room = less + 1 := ⟨room - 1, by omega⟩
    exact .updateBefore closed noTrailing
      (operand clear room (by simpa [Layer.levels] using shallow)) assignable
  exact ⟨closed, fits, fun _ => fits, trivial⟩

theorem fitsOperands_operator {op : UnaryOp} {argument : Expr} (operand : Fitting .unary argument)
    (closed : ClosedNote note) (noTrailing : note.trailing = []) :
    FitsOperands .unary (.unary op argument note) := by
  have fits : Fitting .unary (.unary op argument note) := by
    intro clear room shallow
    simp only [Layer.levels, Expr.levels] at shallow
    obtain ⟨room, rfl⟩ : ∃ less, room = less + 1 := ⟨room - 1, by omega⟩
    exact .operator closed noTrailing
      (operand clear room (by simpa [Layer.levels] using shallow))
  exact ⟨closed, fits, fun _ => fits, trivial⟩

/-! ### Operators between operands -/

theorem FitsOperands.mono {layer layer' : Layer} {expr : Expr} (whole : FitsOperands layer expr)
    (wider : Fitting layer expr → Fitting layer' expr) : FitsOperands layer' expr :=
  ⟨whole.closed, wider whole.fits, whole.tight, whole.parts⟩

theorem FitsOperands.joined {levels : List (List InfixOp)} {expr : Expr}
    (operand : FitsOperands .unary expr) : FitsOperands (.joined levels) expr :=
  operand.mono fun fits clear room shallow => (fits clear room shallow).joined_of_unary levels

theorem FitsOperands.looser {tier : List InfixOp} {tighter : List (List InfixOp)} {expr : Expr}
    (whole : FitsOperands (.joined tighter) expr) :
    FitsOperands (.joined (tier :: tighter)) expr :=
  whole.mono fun fits clear room shallow => .looser (fits clear room shallow)

theorem FitsOperands.conditional {expr : Expr} (whole : FitsOperands (.joined tiers) expr) :
    FitsOperands .conditional expr :=
  whole.mono fun fits clear room shallow => .test (fits clear room shallow)

theorem fitsOperands_node {tier : List InfixOp} {tighter : List (List InfixOp)} {op : InfixOp}
    {left right : Expr} (bare : note.isBare = true) (inTiers : tier :: tighter <:+ tiers)
    (isIn : op ∈ tier) (first : FitsOperands (.joined (tier :: tighter)) left)
    (second : FitsOperands (.joined tighter) right) :
    FitsOperands (.joined (tier :: tighter)) (op.node left right note) := by
  have clearEq : (op.node left right note).isClear = (left.isClear && right.isClear) := by
    cases op <;> rfl
  have levelsEq : (op.node left right note).levels false =
      max (left.levels false) (right.levels false) := by
    cases op <;> simp only [InfixOp.node, Expr.levels]
  have noteEq : (op.node left right note).note = note := by cases op <;> rfl
  refine ⟨?_, fun clear room shallow => ?_, fun tight => ?_, ?_⟩
  · rw [noteEq]
    exact closedNote_of_bare bare
  · rw [clearEq, Bool.and_eq_true] at clear
    simp only [Layer.levels, levelsEq] at shallow
    refine .join bare inTiers isIn (first.fits clear.1 room ?_) (second.fits clear.2 room ?_)
    · simp only [Layer.levels]
      omega
    · simp only [Layer.levels]
      omega
  · cases op <;> simp [InfixOp.node, isTight] at tight
  · cases op <;> trivial

theorem fitsOperands_choice {test consequent alternate : Expr} (bare : note.isBare = true)
    (start : FitsOperands (.joined tiers) test) (first : FitsOperands .conditional consequent)
    (second : FitsOperands .conditional alternate) :
    FitsOperands .conditional (.conditional test consequent alternate note) := by
  refine ⟨closedNote_of_bare bare, fun clear room shallow => ?_, fun tight => ?_, trivial⟩
  · simp only [Expr.isClear_conditional, Bool.and_eq_true] at clear
    simp only [Layer.levels, Expr.levels] at shallow
    refine .choice bare (start.fits clear.1.1 room ?_) (first.fits clear.1.2 room ?_)
      (second.fits clear.2 room ?_)
    all_goals
      simp only [Layer.levels]
      omega
  · simp [isTight] at tight

theorem FitsOperands.argument {expr : Expr} (whole : FitsOperands .conditional expr) :
    Argument expr :=
  ⟨whole.fits, whole.tight⟩

theorem FitsOperands.argument_of_unary {expr : Expr} (operand : FitsOperands .unary expr) :
    Argument expr :=
  operand.joined.conditional.argument

/-! ### Commands -/

theorem isTight_of_isCommand {callee : Expr} {arguments : List Expr}
    (command : Print.isCommand callee arguments = true) :
    ∀ argument ∈ arguments, isTight argument = true := by
  cases arguments with
  | nil => simp
  | cons first rest => simp_all [Print.isCommand]

/-- An operation is an expression of a tag, printed as a command if it is a call. -/
theorem FitsOperands.pipeline {expr : Expr} (whole : FitsOperands .conditional expr) :
    FitsPipeline expr := by
  refine ⟨fun clear room shallow => ?_, whole.parts.keyed⟩
  simp only [Layer.levels] at shallow
  cases spread : expr.isSpread with
  | false =>
    rw [Expr.levels_top spread] at shallow
    exact .plain (whole.fits clear room shallow) spread
  | true =>
    cases expr with
    | call callee arguments isPiped note =>
      obtain ⟨rfl, bareCallee, start, content⟩ := whole.parts
      have command : Print.isCommand callee arguments = true := spread
      simp only [Expr.isClear_call, Bool.and_eq_true, allClear_eq_true] at clear
      obtain ⟨⟨clearCallee, clearArguments⟩, -⟩ := clear
      rw [Expr.levels_call, command] at shallow
      have shallow' : max (callee.levels false) (levelsAll arguments) ≤ room := shallow
      have positive := callee.levels_pos
      refine .command whole.closed ?_ (fun argument isIn => ?_) command
      · obtain ⟨room, rfl⟩ : ∃ less, room = less + 1 := ⟨room - 1, by omega⟩
        refine (start clearCallee room ?_).unary_of_suffixed bareCallee
        simp only [Layer.levels]
        omega
      · have inside := Expr.levels_le_all isIn
        have tight := isTight_of_isCommand command argument isIn
        refine (content argument isIn).tight tight (clearArguments argument isIn) room ?_
        simp only [Layer.levels]
        omega
    | _ => simp [Expr.isSpread] at spread

/-- What arguments of a command are known to be. -/
structure FitsArguments (arguments : List Expr) : Prop where
  operands : ∀ argument ∈ arguments, FitsOperands .unary argument
  tight : ∀ argument ∈ arguments, isTight argument = true

theorem FitsArguments.argument {arguments : List Expr} (fits : FitsArguments arguments) :
    ∀ argument ∈ arguments, Argument argument :=
  fun argument isIn => (fits.operands argument isIn).argument_of_unary

theorem FitsArguments.written {arguments : List Expr} (fits : FitsArguments arguments)
    (clear : ∀ argument ∈ arguments, argument.isClear = true) {room : Nat}
    (shallow : levelsAll arguments ≤ room) :
    ∀ argument ∈ arguments, Written room .unary argument :=
  fun argument isIn => (fits.operands argument isIn).fits (clear argument isIn) room
    (Nat.le_trans (Expr.levels_le_all isIn) shallow)

/-- A call in parentheses whose own comments were read before it is called on. -/
theorem fitsPipeline_floated {callee : Expr} {inner : List Expr} {calleeNote : Note}
    {arguments : List Expr} (bare : note.isBare = true) (closed : ClosedNote calleeNote)
    (parts : Parts (.call callee inner false calleeNote)) (content : FitsArguments arguments) :
    FitsPipeline (.call (.call callee inner false calleeNote) arguments false note) := by
  obtain ⟨-, bareCallee, start, others⟩ := parts
  have called : FitsSuffixed (.call callee inner false .blank) :=
    fitsSuffixed_call rfl bareCallee start others
  have notCommand : Print.isCommand (.call callee inner false .blank) arguments = false := by
    cases arguments <;> rfl
  refine ⟨fun clear room shallow => ?_, by simp [fixedKey?]⟩
  simp only [Expr.isClear_call, Bool.and_eq_true, allClear_eq_true] at clear
  obtain ⟨⟨clearCallee, clearArguments⟩, takes⟩ := clear
  have noTrailing : calleeNote.trailing = [] := by
    simpa [Expr.takesArguments, isSimpleCallee, Expr.note] using takes
  have levelsEq : (Expr.call (.call callee inner false calleeNote) arguments false note).levels
      true = max ((Expr.call callee inner false .blank).levels false)
        (levelsAll arguments + 1) := by
    have same : Print.isCommand (.call callee inner false calleeNote) arguments = false := by
      cases arguments <;> rfl
    rw [Expr.levels_call, same]
    simp [Expr.levels_call]
  simp only [Layer.levels, levelsEq] at shallow
  obtain ⟨room, rfl⟩ : ∃ less, room = less + 1 := ⟨room - 1, by omega⟩
  have clearCalled : (Expr.call callee inner false .blank).isClear = true := by
    simp only [Expr.isClear_call, Bool.and_eq_true, allClear_eq_true]
    exact clearCallee
  have floated : Written (room + 1) .pipeline
      (.call ((Expr.call callee inner false .blank).withNote calleeNote) arguments false note) := by
    refine .floated bare closed noTrailing (called.fitting clearCalled room ?_)
      (fun argument isIn => ?_) notCommand
    · simp only [Layer.levels]
      omega
    · have inside := Expr.levels_le_all isIn
      refine (content.argument argument isIn).fits (clearArguments argument isIn) room ?_
      simp only [Layer.levels]
      omega
  exact floated

/-- A variable or a member with arguments after blanks. -/
theorem fitsPipeline_applied {head : Expr} {arguments : List Expr} (bare : note.isBare = true)
    (start : Fitting .unary head) (content : FitsArguments arguments)
    (command : Print.isCommand head arguments = true) :
    FitsPipeline (.call head arguments false note) := by
  refine ⟨fun clear room shallow => ?_, by simp [fixedKey?]⟩
  simp only [Expr.isClear_call, Bool.and_eq_true, allClear_eq_true] at clear
  obtain ⟨⟨clearHead, clearArguments⟩, -⟩ := clear
  simp only [Layer.levels, Expr.levels_call, command, Bool.and_self, if_true] at shallow
  refine .command (closedNote_of_bare bare) (start clearHead room ?_)
    (content.written clearArguments (by omega)) command
  simp only [Layer.levels]
  omega

/-- An operation with arguments after it is a command. -/
theorem fitsPipeline_command {head : Expr} {arguments : List Expr}
    (whole : FitsOperands .conditional head) (callable : head.isCallable = true)
    (content : FitsArguments arguments) (someArguments : arguments ≠ [])
    (unsigned : ∀ first ∈ arguments.head?, isSigned first = false) :
    FitsPipeline (head.command arguments) := by
  have applied (simple : isSimpleCallee head = true) :
      FitsPipeline (.call head arguments false
        (Note.at (Expr.spanWith head head arguments))) := by
    have isTight : isTight head = true := by cases head <;> simp_all [isSimpleCallee, Print.isTight]
    refine fitsPipeline_applied rfl (whole.tight isTight) content ?_
    cases arguments with
    | nil => exact absurd rfl someArguments
    | cons first rest =>
      have tight := content.tight
      simp_all [Print.isCommand]
  cases head with
  | identifier => exact applied rfl
  | field => exact applied rfl
  | item => exact applied rfl
  | call callee inner isPiped calleeNote =>
    obtain ⟨rfl, bareCallee, start, others⟩ := whole.parts
    unfold Expr.command Expr.applyTo
    dsimp only
    split
    · have called : FitsSuffixed (.call callee ([] ++ inner ++ arguments) false
          (Note.at (Expr.spanWith (.call callee inner false calleeNote)
            (.call callee inner false calleeNote) arguments))) := by
        refine fitsSuffixed_call rfl bareCallee start fun argument isIn => ?_
        rcases List.mem_append.mp isIn with isIn | isIn
        · exact others argument isIn
        · exact content.argument argument isIn
      exact called.operands.joined.conditional.pipeline
    · exact fitsPipeline_floated rfl whole.closed whole.parts content
  | _ => simp [Expr.isCallable] at callable

/-! ### Pipes -/

/-- A value piped into a segment without comments. -/
theorem fitsPipeline_pipe {callee value : Expr} {arguments : List Expr} (bare : note.isBare = true)
    (bareCallee : callee.note.isBare = true) (start : FitsPipeline value)
    (segment : Fitting .suffixed callee) (content : ∀ argument ∈ arguments, Argument argument) :
    FitsPipeline (.call callee (value :: arguments) true note) := by
  refine ⟨fun clear room shallow => ?_, by simp [fixedKey?]⟩
  simp only [Expr.isClear_call, Bool.and_eq_true, allClear_eq_true,
    List.forall_mem_cons] at clear
  obtain ⟨⟨clearCallee, clearValue, clearArguments⟩, -⟩ := clear
  simp only [Layer.levels, Expr.levels, Bool.and_self, if_true] at shallow
  have valueWritten : Written room .pipeline value :=
    start.fits clearValue room (by simp only [Layer.levels]; omega)
  have calleeWritten : Written room .suffixed callee :=
    segment clearCallee room (by simp only [Layer.levels]; omega)
  cases simple : isSimpleCallee callee && arguments.all isTight with
  | true =>
    have tight : ∀ argument ∈ arguments, isTight argument = true := by
      simp only [Bool.and_eq_true, List.all_eq_true] at simple
      exact simple.2
    have piped : Written room .pipeline
        (.call (callee.withNote callee.note) (value :: arguments) true note) := by
      refine .pipe bare (closedNote_of_bare bareCallee) valueWritten calleeWritten
        (fun argument isIn => ?_) simple
      have inside := Expr.levels_le_all isIn
      refine (content argument isIn).tight (tight argument isIn) (clearArguments argument isIn) room
        ?_
      simp only [Layer.levels]
      omega
    rwa [Expr.withNote_note] at piped
  | false =>
    refine .pipeEnclosed bare valueWritten calleeWritten (fun argument isIn => ?_) simple
    have inside := Expr.levels_le_all isIn
    refine (content argument isIn).fits (clearArguments argument isIn) room ?_
    simp only [Layer.levels]
    omega

/-- A value piped into a variable or a member with comments beside it. -/
theorem fitsPipeline_pipe_simple {callee value : Expr} {arguments : List Expr} {calleeNote : Note}
    (bare : note.isBare = true) (closed : ClosedNote calleeNote) (start : FitsPipeline value)
    (segment : FitsSuffixed callee) (simple : isSimpleCallee callee = true)
    (content : FitsArguments arguments) :
    FitsPipeline (.call (callee.withNote calleeNote) (value :: arguments) true note) := by
  refine ⟨fun clear room shallow => ?_, by simp [fixedKey?]⟩
  simp only [Expr.isClear_call, Bool.and_eq_true, allClear_eq_true, List.forall_mem_cons,
    Expr.isClear_withNote] at clear
  obtain ⟨⟨clearCallee, clearValue, clearArguments⟩, -⟩ := clear
  simp only [Layer.levels, Expr.levels, Bool.and_self, if_true, Expr.levels_withNote] at shallow
  refine .pipe bare closed (start.fits clearValue room ?_) (segment.fitting clearCallee room ?_)
    (content.written clearArguments (by omega)) ?_
  · simp only [Layer.levels]
    omega
  · simp only [Layer.levels]
    omega
  · rw [simple, Bool.true_and, List.all_eq_true]
    exact content.tight

/-- A value piped into a segment, which may be a call already. -/
theorem fitsPipeline_pipeInto {value segment : Expr} {arguments : List Expr}
    (start : FitsPipeline value) (callee : FitsSuffixed segment) (closed : ClosedNote note)
    (content : FitsArguments arguments) :
    FitsPipeline (value.pipeInto (segment.withNote note) arguments) := by
  -- A segment that is called with the value and keeps its comments.
  have kept (span : Span) : FitsPipeline
      (.call (segment.withNote note) (value :: arguments) true (Note.at span)) := by
    cases simple : isSimpleCallee segment with
    | true => exact fitsPipeline_pipe_simple rfl closed start callee simple content
    | false =>
      have takes (clear : (Expr.call (segment.withNote note) (value :: arguments) true
          (Note.at span)).isClear = true) : note.isBare = true := by
        simp only [Expr.isClear_call, Expr.takesArguments, Bool.and_eq_true,
          Expr.isSimpleCallee_withNote, simple, Expr.note_withNote] at clear
        simpa [Note.isBare, and_comm] using clear.2
      refine ⟨fun clear => ?_, by simp [fixedKey?]⟩
      have bare := takes clear
      exact (fitsPipeline_pipe rfl (by rwa [Expr.note_withNote]) start (callee.fits note bare)
        content.argument).fits clear
  unfold Expr.pipeInto Expr.applyTo
  cases segment with
  | call inner others isPiped innerNote =>
    obtain ⟨rfl, bareInner, fits, rest⟩ := callee.parts
    dsimp only [Expr.withNote]
    split
    · refine fitsPipeline_pipe rfl bareInner start fits fun argument isIn => ?_
      rcases List.mem_append.mp isIn with isIn | isIn
      · exact rest argument isIn
      · exact content.argument argument isIn
    · exact kept _
  | _ => exact kept _

end Grammar

end TemplateLang
