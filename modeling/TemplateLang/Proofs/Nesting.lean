import TemplateLang.Proofs.RoundTrip.Grouped

/-!
# How deep templates nest

The levels around a piece of a template are the block bodies, brackets and operators
before an operand that enclose it.  The reader counts them where it reads an operand.  The
segment after a pipe is read without that count, and so the brackets that it is written
with are not in the count: without them no template nests deeper than the limit, and with
them templates nest as deep as one likes.
-/

namespace TemplateLang

/-! ## Levels -/

/-- Whether the arguments of a call stand in brackets.  Those of a command do not, and its
span ends with them. -/
def hasBrackets (arguments : List Expr) (note : Note) : Bool :=
  match arguments.getLast? with
  | some last => note.span ≠ Span.between note.span.start last.span.stop
  | none => false

mutual

/-- The most levels around a piece of an expression.  The brackets of a pipe segment count
as `segment` levels each, and those that the expression itself is written with, as an
operand with its suffixes, as `bracket` levels each. -/
def Expr.nesting (segment bracket : Nat) : Expr → Nat
  | .null _ | .undefined _ | .boolean _ _ | .number _ _ | .text _ _ _ | .identifier _ _ => 0
  | .array items _ => nestingOfAll segment bracket items
  | .field object _ _ _ => object.nesting segment bracket
  | .item object key _ => max (object.nesting segment bracket) (bracket + key.nesting segment 1)
  | .call callee arguments isPiped note =>
    if isPiped then
      max (callee.nesting segment segment) (nestingOfAll segment 0 arguments)
    else
      max (callee.nesting segment bracket)
        (nestingOfAll segment (if hasBrackets arguments note then bracket else 0) arguments)
  | .unary _ argument _ => 1 + argument.nesting segment 1
  | .update _ .before argument _ => 1 + argument.nesting segment 1
  | .update _ .after argument _ => argument.nesting segment bracket
  | .binary _ left right _ | .logical _ left right _ =>
    max (left.nesting segment 1) (right.nesting segment 1)
  | .conditional test consequent alternate _ =>
    max (test.nesting segment 1)
      (max (consequent.nesting segment 1) (alternate.nesting segment 1))
  | .paren inner _ => bracket + inner.nesting segment 1

/-- The most levels around a piece of some expressions with `level` levels around them. -/
def nestingOfAll (segment level : Nat) : List Expr → Nat
  | [] => 0
  | expr :: others => max (level + expr.nesting segment 1) (nestingOfAll segment level others)

end

mutual

/-- The most levels around a piece of some elements. -/
def nestingIn (segment : Nat) : List Element → Nat
  | [] => 0
  | .raw _ _ :: others => nestingIn segment others
  | .tag _ statement _ _ :: others => max (statement.nesting segment) (nestingIn segment others)

/-- The most levels around a piece of a statement. -/
def Statement.nesting (segment : Nat) : Statement → Nat
  | .empty | .breakLoop _ | .continueLoop _ => 0
  | .expression expr | .assign _ expr _ => expr.nesting segment 1
  | .branch branch => branch.nesting segment
  | .loop _ _ iterable _ body _ _ => max (iterable.nesting segment 1) (1 + nestingIn segment body)

/-- The most levels around a piece of a condition. -/
def Branch.nesting (segment : Nat) : Branch → Nat
  | .mk test _ body alternate _ =>
    max (test.nesting segment 1) (max (1 + nestingIn segment body) (alternate.nesting segment))

/-- The most levels around a piece of the rest of a condition. -/
def Alternate.nesting (segment : Nat) : Alternate → Nat
  | .done _ => 0
  | .otherwise _ _ body _ => 1 + nestingIn segment body
  | .chain _ next => next.nesting segment

end

theorem nestingOfAll_le_iff {segment level bound : Nat} {exprs : List Expr} :
    nestingOfAll segment level exprs ≤ bound ↔
      ∀ expr ∈ exprs, level + expr.nesting segment 1 ≤ bound := by
  induction exprs with
  | nil => simp [nestingOfAll]
  | cons expr others ih => simp [nestingOfAll, Nat.max_le, ih]

theorem nestingOfAll_lt_iff {segment level bound : Nat} {exprs : List Expr} :
    nestingOfAll segment level exprs < bound ↔
      0 < bound ∧ ∀ expr ∈ exprs, level + expr.nesting segment 1 < bound := by
  induction exprs with
  | nil => simp [nestingOfAll]
  | cons expr others ih => simp [nestingOfAll, Nat.max_lt, ih, and_left_comm]

namespace Expr

variable {segment bracket : Nat}

/-- Levels do not depend on comments. -/
theorem nesting_withNote {expr : Expr} {note : Note} (sameSpan : note.span = expr.span) :
    (expr.withNote note).nesting segment bracket = expr.nesting segment bracket := by
  have sameBrackets : ∀ arguments, hasBrackets arguments note = hasBrackets arguments expr.note :=
    fun arguments => by unfold hasBrackets; rw [sameSpan]; rfl
  cases expr with
  | call => simp [withNote, nesting, sameBrackets, Expr.note]
  | update _ place => cases place <;> simp [withNote, nesting]
  | _ => simp [withNote, nesting]

theorem nesting_addLeading (comments : List Comment) (expr : Expr) :
    (expr.addLeading comments).nesting segment bracket = expr.nesting segment bracket :=
  nesting_withNote rfl

theorem nesting_addTrailing (comments : List Comment) (expr : Expr) :
    (expr.addTrailing comments).nesting segment bracket = expr.nesting segment bracket :=
  nesting_withNote rfl

end Expr

/-! ## What the reader counts -/

/-- An operand fits a number of levels: all of it, and, without the brackets that it is
written with, one level less. -/
structure Expr.Fits (room : Nat) (expr : Expr) : Prop where
  inSegment : expr.nesting 0 0 ≤ room - 1
  whole : expr.nesting 0 1 ≤ room

namespace Expr

variable {room : Nat}

theorem nestingOfAll_zero_le {exprs : List Expr}
    (each : ∀ expr ∈ exprs, expr.nesting 0 1 < room) : nestingOfAll 0 0 exprs ≤ room - 1 := by
  rw [nestingOfAll_le_iff]
  intro expr isOne
  have := each expr isOne
  omega

theorem nestingOfAll_one_le {exprs : List Expr}
    (each : ∀ expr ∈ exprs, expr.nesting 0 1 < room) : nestingOfAll 0 1 exprs ≤ room := by
  rw [nestingOfAll_le_iff]
  intro expr isOne
  have := each expr isOne
  omega

theorem fits_paren {inner : Expr} {note : Note} (inner_fits : inner.nesting 0 1 < room) :
    (paren inner note).Fits room := by
  constructor <;> rw [nesting] <;> omega

theorem fits_array {items : List Expr} {note : Note}
    (each : ∀ expr ∈ items, expr.nesting 0 1 < room) : (array items note).Fits room := by
  constructor <;> rw [nesting]
  · exact nestingOfAll_zero_le each
  · exact nestingOfAll_one_le each

theorem fits_item {object key : Expr} {note : Note} (object_fits : object.Fits room)
    (key_fits : key.nesting 0 1 < room) : (item object key note).Fits room := by
  obtain ⟨inSegment, whole⟩ := object_fits
  constructor <;> rw [nesting] <;> omega

theorem fits_call {callee : Expr} {arguments : List Expr} {note : Note}
    (callee_fits : callee.Fits room) (each : ∀ expr ∈ arguments, expr.nesting 0 1 < room) :
    (call callee arguments false note).Fits room := by
  obtain ⟨inSegment, whole⟩ := callee_fits
  have bare := nestingOfAll_zero_le each
  have bracketed := nestingOfAll_one_le each
  constructor <;> rw [nesting, if_neg Bool.false_ne_true] <;> split <;> omega

/-- Words and other literals have nothing around them. -/
theorem fits_of_nesting_eq_zero {expr : Expr}
    (flat : ∀ bracket, expr.nesting 0 bracket = 0) : expr.Fits room := by
  constructor <;> rw [flat] <;> omega

/-- Whether there are brackets does not depend on comments. -/
theorem hasBrackets_congr {arguments : List Expr} {note other : Note}
    (sameSpan : note.span = other.span) :
    hasBrackets arguments note = hasBrackets arguments other := by
  unfold hasBrackets
  rw [sameSpan]

/-- The arguments of a command have no brackets. -/
theorem hasBrackets_command {head : Expr} {arguments extra : List Expr} (given : extra ≠ []) :
    hasBrackets (arguments ++ extra) (Note.at (spanWith head head extra)) = false := by
  obtain ⟨last, isLast⟩ : ∃ last, extra.getLast? = some last :=
    Option.isSome_iff_exists.mp (by simpa using given)
  simp [hasBrackets, spanWith, Note.at, Span.between, isLast]

/-- A command without arguments of its own spans what its head spans. -/
theorem spanWith_nil (head : Expr) : spanWith head head [] = head.span := by
  have ordered := head.span.start_le_stop
  simp only [spanWith, Span.between, List.getLast?_nil, Option.getD_none, Nat.max_eq_left ordered]

/-- A call nests as deep as its callee and its arguments in their brackets, if they have
any. -/
theorem nesting_call_lt_iff {callee : Expr} {arguments : List Expr} {note : Note} :
    (call callee arguments false note).nesting 0 1 < room ↔
      callee.nesting 0 1 < room ∧ (∀ expr ∈ arguments, expr.nesting 0 1 < room) ∧
        (hasBrackets arguments note = true → nestingOfAll 0 1 arguments < room) := by
  rw [nesting, if_neg Bool.false_ne_true, Nat.max_lt]
  refine and_congr_right fun callee_fits => ?_
  have positive : 0 < room := Nat.zero_lt_of_lt callee_fits
  cases hasBrackets arguments note with
  | false => simp [nestingOfAll_lt_iff, positive]
  | true =>
    rw [if_pos rfl]
    refine ⟨fun inBrackets => ⟨fun expr isArgument => ?_, fun _ => inBrackets⟩,
      fun given => given.2 rfl⟩
    have := (nestingOfAll_lt_iff.mp inBrackets).2 expr isArgument
    omega

/-- A command nests as deep as its head and its arguments. -/
theorem nesting_command {head : Expr} {extra : List Expr} (head_fits : head.nesting 0 1 < room)
    (each : ∀ expr ∈ extra, expr.nesting 0 1 < room) : (head.command extra).nesting 0 1 < room := by
  rw [command]
  rcases applyTo_cases head [] extra false (spanWith head head extra) with
    ⟨inner, arguments, note, -, rfl, same⟩ | same
  all_goals rw [same]
  · obtain ⟨callee_fits, eachArgument, inBrackets⟩ := nesting_call_lt_iff.mp head_fits
    refine nesting_call_lt_iff.mpr ⟨callee_fits, ?_, fun brackets => ?_⟩
    · simpa [or_imp, forall_and] using ⟨eachArgument, each⟩
    · by_cases given : extra = []
      · subst given
        simp only [List.nil_append, List.append_nil] at brackets ⊢
        refine inBrackets ((hasBrackets_congr ?_).trans brackets)
        exact (spanWith_nil (call inner arguments false note)).symm
      · rw [List.nil_append, hasBrackets_command given] at brackets
        cases brackets
  · refine nesting_call_lt_iff.mpr ⟨head_fits, each, fun brackets => ?_⟩
    by_cases given : extra = []
    · simp [given, hasBrackets] at brackets
    · rw [hasBrackets_command given] at brackets
      cases brackets

/-- A piped call nests as deep as the value, the segment without its brackets, and the
arguments. -/
theorem nesting_pipeInto {value segment : Expr} {extra : List Expr}
    (value_fits : value.nesting 0 1 < room) (segment_fits : segment.nesting 0 0 ≤ room - 1)
    (each : ∀ expr ∈ extra, expr.nesting 0 1 < room) :
    (value.pipeInto segment extra).nesting 0 1 < room := by
  have general : ∀ callee arguments (note : Note), callee.nesting 0 0 ≤ room - 1 →
      (∀ expr ∈ arguments, expr.nesting 0 1 < room) →
      (call callee arguments true note).nesting 0 1 < room := by
    intro callee arguments note callee_fits eachArgument
    have bare := nestingOfAll_zero_le eachArgument
    rw [nesting, if_pos rfl]
    omega
  rw [pipeInto]
  rcases applyTo_cases segment [value] extra true (spanWith value segment extra) with
    ⟨inner, arguments, note, -, rfl, same⟩ | same
  all_goals rw [same]
  · rw [nesting, if_neg Bool.false_ne_true, ite_self] at segment_fits
    refine general _ _ _ (by omega) ?_
    have eachArgument := nestingOfAll_le_iff.mp (Nat.le_trans (Nat.le_max_right _ _) segment_fits)
    simp only [List.mem_append, List.mem_singleton, or_imp, forall_and, forall_eq]
    refine ⟨⟨value_fits, fun expr isArgument => ?_⟩, each⟩
    have := eachArgument expr isArgument
    omega
  · refine general _ _ _ segment_fits ?_
    simpa using ⟨value_fits, each⟩

end Expr

namespace Grammar

/-- What is read where a number of levels is left fits it. -/
def Goal.Fits (room : Nat) : Goal → Prop
  | .primary expr | .suffixed expr => expr.Fits room
  | .suffixes head expr => head.Fits room → expr.Fits room
  | .update expr => expr.nesting 0 1 ≤ room
  | .unary expr | .joined _ expr | .conditional expr | .command expr | .pipeline expr =>
    expr.nesting 0 1 < room
  | .infixes _ _ left expr | .pipes left expr => left.nesting 0 1 < room → expr.nesting 0 1 < room
  | .items _ exprs | .arguments exprs => ∀ expr ∈ exprs, expr.nesting 0 1 < room

theorem nesting_of_wordExpr {cursor next : Cursor} {word : String} {expr : Expr}
    (read : wordExpr cursor word = .ok (expr, next)) (bracket : Nat) :
    expr.nesting 0 bracket = 0 := by
  cases (wordExpr_eq_ok.mp read).2 with
  | null | undefined | yes | no | identifier => rfl

theorem nesting_of_literal {cursor next : Cursor} {expr : Expr}
    (read : Grammar.literal cursor = .ok (expr, next)) (bracket : Nat) :
    expr.nesting 0 bracket = 0 := by
  rcases literal_eq_ok.mp read with ⟨_, _, -, rfl⟩ | ⟨-, _, -, rfl⟩ <;> rfl

/-- Expressions that are read fit the levels that are left. -/
theorem Derives.fits {setting : Setting} {goal : Goal} {cursor next : Cursor}
    (derived : Derives setting goal cursor next) : goal.Fits setting.room := by
  induction derived with
  | paren _ _ _ ihContent => exact Expr.fits_paren ihContent
  | array _ _ ihContent => exact Expr.fits_array ihContent
  | word _ _ _ read => exact Expr.fits_of_nesting_eq_zero (nesting_of_wordExpr read)
  | literal _ _ _ read => exact Expr.fits_of_nesting_eq_zero (nesting_of_literal read)
  | noSuffix => exact id
  | field _ _ _ ihOthers => exact fun head_fits => ihOthers ⟨head_fits.1, head_fits.2⟩
  | item _ _ _ _ ihContent ihOthers =>
    exact fun head_fits => ihOthers (Expr.fits_item head_fits ihContent)
  | call _ _ _ ihContent ihOthers =>
    exact fun head_fits => ihOthers (Expr.fits_call head_fits ihContent)
  | suffixed _ _ ihStart ihOthers => exact ihOthers ihStart
  | updateBefore _ _ _ ihOperand =>
    simp only [Goal.Fits, Expr.nesting] at ihOperand ⊢
    omega
  | updateAfter _ _ _ _ ihOperand =>
    simp only [Goal.Fits, Expr.nesting]
    exact ihOperand.whole
  | noUpdate _ _ _ ihOperand => exact ihOperand.whole
  | operator someRoom _ _ _ ihOperand =>
    simp only [Goal.Fits, Expr.nesting_addLeading, Expr.nesting, someRoom] at ihOperand ⊢
    omega
  | operand someRoom _ _ _ _ ihOperand =>
    simp only [Goal.Fits, Expr.nesting_addLeading, Expr.nesting_addTrailing, someRoom]
      at ihOperand ⊢
    omega
  | noInfix => exact id
  | @infixMore _ _ _ op _ _ _ _ _ _ _ _ _ ihOperand ihOthers =>
    intro left_fits
    refine ihOthers ?_
    simp only [Goal.Fits] at ihOperand
    cases op <;> simp only [InfixOp.join, Expr.nesting] <;> omega
  | tightest _ ihOperand => exact ihOperand
  | tier _ _ ihStart ihOthers => exact ihOthers ihStart
  | test _ _ ihStart => exact ihStart
  | choice _ _ _ _ _ ihStart ihFirst ihSecond =>
    simp only [Goal.Fits, Expr.nesting] at ihStart ihFirst ihSecond ⊢
    omega
  | itemsEnd => simp [Goal.Fits]
  | itemsLast _ _ _ _ ihContent => simpa [Goal.Fits] using ihContent
  | itemsMore _ _ _ _ ihContent ihOthers => exact List.forall_mem_cons.mpr ⟨ihContent, ihOthers⟩
  | noArgument | refused => simp [Goal.Fits]
  | argument _ _ _ ihOperand ihOthers => exact List.forall_mem_cons.mpr ⟨ihOperand, ihOthers⟩
  | noCommand _ _ ihStart => exact ihStart
  | command _ _ _ ihStart ihArguments => exact Expr.nesting_command ihStart ihArguments
  | noPipe => exact id
  | pipe _ _ _ _ _ _ ihCallee ihArguments ihOthers =>
    intro value_fits
    refine ihOthers (Expr.nesting_pipeInto value_fits ?_ ihArguments)
    exact Nat.le_trans (Nat.le_of_eq (Expr.nesting_withNote (by rfl))) ihCallee.inSegment
  | pipeline _ _ ihStart ihOthers => exact ihOthers ihStart

/-- What is read of a template where a number of levels is left fits it. -/
def BlockGoal.Fits (room : Nat) : BlockGoal → Prop
  | .elements _ pieces => nestingIn 0 pieces ≤ room
  | .statement whole => whole.nesting 0 ≤ room
  | .branch whole => whole.nesting 0 ≤ room
  | .alternate whole => whole.nesting 0 ≤ room

/-- Templates that are read fit the levels that are left. -/
theorem DerivesBlock.fits {setting : Setting} {goal : BlockGoal} {cursor next : Cursor}
    (derived : DerivesBlock setting goal cursor next) : goal.Fits setting.room := by
  induction derived with
  | elementsEnd | empty | breakLoop | continueLoop | done => exact Nat.zero_le _
  | raw _ _ _ ihOthers => exact ihOthers
  | tag _ _ _ _ _ ihContent ihOthers => exact Nat.max_le.mpr ⟨ihContent, ihOthers⟩
  | assign _ _ _ content => exact Nat.le_of_lt content.fits
  | expression _ _ _ content => exact Nat.le_of_lt content.fits
  | branchStatement _ _ _ _ ihContent => exact ihContent
  | loop _ _ _ _ _ _ head _ someRoom _ _ ihContent =>
    have inHead := head.fits
    simp only [BlockGoal.Fits, Goal.Fits, Statement.nesting, someRoom] at inHead ihContent ⊢
    omega
  | branch head _ someRoom _ _ ihContent ihOthers =>
    have inHead := head.fits
    simp only [BlockGoal.Fits, Goal.Fits, Branch.nesting, someRoom] at inHead ihContent ihOthers ⊢
    omega
  | chain _ _ _ _ ihContent => exact ihContent
  | otherwise _ _ _ _ someRoom _ _ ihContent =>
    simp only [BlockGoal.Fits, Alternate.nesting, someRoom] at ihContent ⊢
    omega

end Grammar

/-- Without the brackets of pipe segments, no template that is read nests deeper than the
limit. -/
theorem nestingIn_le_maxNesting {tags : Delimiters} {source : List Char} {template : Template}
    (read : parse tags source = .ok template) : nestingIn 0 template.elements ≤ maxNesting := by
  obtain ⟨next, derived⟩ := derivesBlock_of_parse read
  exact derived.fits

/-- A block with an array in it. -/
theorem nestingIn_le_maxNesting_block :
    ∃ template, parse ⟨"<%", "%>"⟩ "<% if x %><% [(y), f(-z)] | g(1) %><% end %>".toList =
        .ok template ∧ nestingIn 0 template.elements ≤ maxNesting := by
  have accepted : (parse ⟨"<%", "%>"⟩
      "<% if x %><% [(y), f(-z)] | g(1) %><% end %>".toList).isOk = true := by
    decide
  cases read : parse ⟨"<%", "%>"⟩ "<% if x %><% [(y), f(-z)] | g(1) %><% end %>".toList with
  | error diagnostic =>
    rw [read] at accepted
    cases accepted
  | ok template => exact ⟨template, rfl, nestingIn_le_maxNesting read⟩

/-! ## What the reader does not count -/

/-- Pipes in the brackets of a pipe segment, and so on to a depth. -/
def pipesInSegments : Nat → Expr
  | 0 => .identifier "x" .blank
  | depth + 1 =>
    .call (.paren (pipesInSegments depth) .blank) [.identifier "x" .blank] true .blank

/-- A bare expression in parentheses comes from one. -/
theorem Expr.bare_eq_paren {expr inner : Expr} {note : Note}
    (same : expr.bare = paren inner note) : ∃ inner' note', expr = paren inner' note' := by
  obtain ⟨notField, notItem⟩ := not_member_of_bare same (by simp) (by simp)
  cases expr with
  | paren inner' note' => exact ⟨inner', note', rfl⟩
  | field => exact absurd rfl (notField _ _ _ _)
  | item => exact absurd rfl (notItem _ _ _)
  | _ => exact Expr.noConfusion same

/-- However deep they are, one level is enough to read them back. -/
theorem written_pipesInSegments (room depth : Nat) :
    Grammar.Written (room + 1) .pipeline (pipesInSegments depth) := by
  have word : Grammar.Written room .suffixed (.identifier "x" .blank) :=
    .identifier rfl (by decide) (by decide)
  have value : Grammar.Written (room + 1) .pipeline (.identifier "x" .blank) :=
    .plain (word.unary_of_suffixed rfl).conditional_of_unary rfl
  induction depth with
  | zero => exact value
  | succ depth ih => exact .pipeEnclosed rfl value (.paren rfl ih) (by simp) rfl

theorem comments_pipesInSegments (depth : Nat) : (pipesInSegments depth).comments = [] := by
  induction depth with
  | zero => rfl
  | succ depth ih => simp [pipesInSegments, Expr.comments, exprComments, ih, Note.around,
    Note.blank,
      Note.at]

/-- An expression that is the same but for spans nests as deep. -/
theorem le_nesting_of_bare {depth : Nat} {expr : Expr}
    (same : expr.bare = (pipesInSegments depth).bare) : depth ≤ expr.nesting 1 1 := by
  induction depth generalizing expr with
  | zero => exact Nat.zero_le _
  | succ depth ih =>
    obtain ⟨callee, arguments, note, rfl⟩ := Expr.bare_eq_call same
    obtain ⟨calleeEq, -, -, -⟩ := Expr.call.inj same
    obtain ⟨inner, note', rfl⟩ := Expr.bare_eq_paren calleeEq
    have deep := ih (Expr.paren.inj calleeEq).1
    simp only [Expr.nesting, if_true]
    omega

/-- With the brackets of pipe segments, templates nest as deep as one likes. -/
theorem exists_nestingIn_ge (depth : Nat) :
    ∃ source template, parse .standard source = .ok template ∧
      depth ≤ nestingIn 1 template.elements := by
  obtain ⟨expr, opening, closing, span, read, same, -⟩ := parse_expressionTag
    (Grammar.reads_of_written (written_pipesInSegments 31 depth)) (comments_pipesInSegments depth)
  refine ⟨_, _, read, ?_⟩
  simpa [nestingIn, Statement.nesting] using le_nesting_of_bare same

/-- A tag with pipes in the brackets of pipe segments. -/
def segmentsTag (depth : Nat) : List Char :=
  "\x7b\x7b ".toList ++ (List.replicate depth "x | (".toList).flatten ++
    'x' :: (List.replicate depth ')' ++ " \x7d\x7d".toList)

/-- One bracket more than the limit is read. -/
theorem maxNesting_lt_nestingIn :
    ∃ template, parse .standard (segmentsTag 33) = .ok template ∧
      maxNesting < nestingIn 1 template.elements := by
  have deep : (match parse .standard (segmentsTag 33) with
      | .ok template => decide (maxNesting < nestingIn 1 template.elements)
      | .error _ => false) = true := by
    decide +kernel
  split at deep
  · rename_i template read
    exact ⟨template, read, of_decide_eq_true deep⟩
  · cases deep

end TemplateLang
