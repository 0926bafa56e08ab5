import TemplateLang.Proofs.Grammar.Heads

/-!
# The shape of expressions that are read

What stands on the two sides of an operator binds as tightly as the operator asks, a pipe
stands only where the grammar starts over, `++` and `--` change only what can be assigned,
and no variable has a reserved name.  The levels of operators are the places of their
tiers in the grammar.

All layers are treated together, by induction over derivations.  Commands and pipes take
calls apart and put them together again; that they keep the shape is one lemma.
-/

namespace TemplateLang

open Grammar

/-! ## Levels -/

/-- How tightly an operator between operands binds: the place of its tier. -/
def Grammar.InfixOp.level (op : InfixOp) : Nat :=
  tiers.findIdx (·.contains op) + 1

example : (InfixOp.logical .or).level = 1 ∧ (InfixOp.binary .add).level = 5 := by decide

/-- The level of operators before an operand. -/
def unaryLevel : Nat :=
  tiers.length + 1

/-- The level of updates. -/
def updateLevel : Nat :=
  unaryLevel + 1

/-- The level of literals, names, brackets, members and calls. -/
def operandLevel : Nat :=
  updateLevel + 1

/-- Tiers whose operators have the levels that belong to their places. -/
def Ranked : List (List InfixOp) → Prop
  | [] => True
  | tier :: tighter => (∀ op ∈ tier, op.level + tighter.length + 1 = unaryLevel) ∧ Ranked tighter

theorem ranked_tiers : Ranked tiers := by
  simp only [tiers, Ranked]
  decide

namespace Expr

/-- How tightly an expression binds, from a conditional on. -/
def level : Expr → Nat
  | conditional _ _ _ _ => 0
  | logical op _ _ _ => (InfixOp.logical op).level
  | binary op _ _ _ => (InfixOp.binary op).level
  | unary _ _ _ => unaryLevel
  | update _ _ _ _ => updateLevel
  | _ => operandLevel

/-- Whether an expression is a call that was written as a pipe. -/
def isPiped : Expr → Bool
  | call _ _ isPiped _ => isPiped
  | _ => false

/-- The children that no pipe may stand for: all but the content of parentheses, computed
keys, and the value piped into a call. -/
def unpiped : Expr → List Expr
  | paren _ _ => []
  | item object _ _ => [object]
  | call callee arguments isPiped _ => callee :: arguments.drop (if isPiped then 1 else 0)
  | expr => expr.children

/-- A child that may be a pipe stands in parentheses, is a computed key, or is the value
piped into a call. -/
theorem mem_unpiped_or {expr child : Expr} (isChild : child ∈ expr.children) :
    child ∈ expr.unpiped ∨ (∃ note, expr = paren child note) ∨
      (∃ object note, expr = item object child note) ∨
        ∃ callee others note, expr = call callee (child :: others) true note := by
  cases expr with
  | paren inner note =>
    rcases List.mem_singleton.mp isChild with rfl
    exact .inr (.inl ⟨note, rfl⟩)
  | item object key note =>
    rcases List.mem_cons.mp isChild with rfl | isKey
    · exact .inl (List.mem_singleton.mpr rfl)
    · rcases List.mem_singleton.mp isKey with rfl
      exact .inr (.inr (.inl ⟨object, note, rfl⟩))
  | call callee arguments isPiped note =>
    rcases List.mem_cons.mp isChild with rfl | isArgument
    · exact .inl (List.mem_cons_self ..)
    · cases isPiped with
      | false => exact .inl (List.mem_cons_of_mem _ isArgument)
      | true =>
        rcases arguments with _ | ⟨first, others⟩
        · simp at isArgument
        · rcases List.mem_cons.mp isArgument with rfl | isOther
          · exact .inr (.inr (.inr ⟨callee, others, note, rfl⟩))
          · exact .inl (List.mem_cons_of_mem _ isOther)
  | _ => exact .inl isChild

/-- Whether the children of an expression bind as tightly as they have to. -/
def LevelsFit : Expr → Prop
  | binary op left right _ =>
    (InfixOp.binary op).level ≤ left.level ∧ (InfixOp.binary op).level < right.level
  | logical op left right _ =>
    (InfixOp.logical op).level ≤ left.level ∧ (InfixOp.logical op).level < right.level
  | conditional test _ _ _ => 0 < test.level
  | unary _ argument _ => unaryLevel ≤ argument.level
  | field object _ _ _ | item object _ _ => object.level = operandLevel
  | call callee _ _ _ => callee.level = operandLevel
  | _ => True

/-- Whether an update changes something that can be assigned. -/
def TargetFits : Expr → Prop
  | update _ _ argument _ => argument.isAssignable = true
  | _ => True

/-- Whether a variable has a name that is not reserved. -/
def NameFits : Expr → Prop
  | identifier name _ => isReserved name = false
  | _ => True

/-- The shape of an expression, seen from its children. -/
structure WellFormed (expr : Expr) : Prop where
  levels : expr.LevelsFit
  pipes : ∀ child ∈ expr.unpiped, child.isPiped = false
  target : expr.TargetFits
  name : expr.NameFits

/-- An expression that is no pipe and binds tightly enough, and that has its shape with all
that stands in it. -/
structure Tight (least : Nat) (expr : Expr) : Prop where
  level : least ≤ expr.level
  notPiped : expr.isPiped = false
  formed : expr.Everywhere WellFormed

variable {expr : Expr}

/-- No operand binds more tightly than an operand without operators. -/
theorem level_le (expr : Expr) : expr.level ≤ operandLevel := by
  have infixes (op : InfixOp) : op.level ≤ operandLevel := by
    rcases op with op | op <;> cases op <;> decide
  cases expr with
  | binary op => exact infixes (.binary op)
  | logical op => exact infixes (.logical op)
  | conditional => exact Nat.zero_le _
  | unary => exact Nat.le_add_right unaryLevel 2
  | update => exact Nat.le_add_right updateLevel 1
  | _ => exact Nat.le_refl _

theorem Tight.operand (tight : expr.Tight operandLevel) : expr.level = operandLevel :=
  Nat.le_antisymm expr.level_le tight.level

theorem Tight.mono {least least' : Nat} (tight : expr.Tight least) (le : least' ≤ least) :
    expr.Tight least' :=
  ⟨Nat.le_trans le tight.level, tight.notPiped, tight.formed⟩

/-! ## Notes do not matter -/

@[simp]
theorem level_withNote (note : Note) (expr : Expr) : (expr.withNote note).level = expr.level := by
  cases expr <;> rfl

@[simp]
theorem isPiped_withNote (note : Note) (expr : Expr) :
    (expr.withNote note).isPiped = expr.isPiped := by
  cases expr <;> rfl

theorem WellFormed.withNote (formed : expr.WellFormed) (note : Note) :
    (expr.withNote note).WellFormed where
  levels := by cases expr <;> exact formed.levels
  pipes := by cases expr <;> exact formed.pipes
  target := by cases expr <;> exact formed.target
  name := by cases expr <;> exact formed.name

/-- An expression has its shape if its children do and fit into it. -/
theorem tight_of_children {least : Nat} (level : expr.level = least)
    (notPiped : expr.isPiped = false) (formed : expr.WellFormed)
    (below : ∀ child ∈ expr.children, child.Everywhere WellFormed) : expr.Tight least :=
  ⟨Nat.le_of_eq level.symm, notPiped, everywhere_iff.mpr ⟨formed, below⟩⟩

theorem Tight.withNote {least : Nat} (tight : expr.Tight least) (note : Note) :
    (expr.withNote note).Tight least where
  level := by
    rw [level_withNote]
    exact tight.level
  notPiped := by
    rw [isPiped_withNote]
    exact tight.notPiped
  formed := by
    rw [everywhere_iff, children_withNote]
    exact ⟨tight.formed.here.withNote note, fun _ isChild => tight.formed.child isChild⟩

/-! ## One step up -/

/-- An expression without children. -/
theorem tight_leaf (leaf : expr.children = []) (operand : expr.level = operandLevel)
    (unpiped : expr.unpiped = []) (notPiped : expr.isPiped = false) (levels : expr.LevelsFit)
    (target : expr.TargetFits) (name : expr.NameFits) : expr.Tight operandLevel := by
  apply tight_of_children operand notPiped
  · exact ⟨levels, by simp [unpiped], target, name⟩
  · simp [leaf]

theorem tight_paren {inner : Expr} (formed : inner.Everywhere WellFormed) (note : Note) :
    (paren inner note).Tight operandLevel := by
  refine tight_of_children rfl rfl ?_ ?_
  · exact ⟨trivial, List.forall_mem_nil _, trivial, trivial⟩
  · exact List.forall_mem_singleton.mpr formed

theorem tight_array {items : List Expr} (tight : ∀ item ∈ items, item.Tight 0) (note : Note) :
    (array items note).Tight operandLevel := by
  refine tight_of_children rfl rfl ?_ ?_
  · exact ⟨trivial, fun child isChild => (tight child isChild).notPiped, trivial, trivial⟩
  · exact fun child isChild => (tight child isChild).formed

theorem tight_field {object : Expr} (tight : object.Tight operandLevel) (key : FieldKey)
    (keySpan : Span) (note : Note) : (field object key keySpan note).Tight operandLevel := by
  refine tight_of_children rfl rfl ?_ ?_
  · exact ⟨tight.operand, List.forall_mem_singleton.mpr tight.notPiped, trivial, trivial⟩
  · exact List.forall_mem_singleton.mpr tight.formed

theorem tight_item {object key : Expr} (tight : object.Tight operandLevel)
    (formed : key.Everywhere WellFormed) (note : Note) :
    (item object key note).Tight operandLevel := by
  refine tight_of_children rfl rfl ?_ ?_
  · exact ⟨tight.operand, List.forall_mem_singleton.mpr tight.notPiped, trivial, trivial⟩
  · exact List.forall_mem_cons.mpr ⟨tight.formed, List.forall_mem_singleton.mpr formed⟩

/-- A call, of which only the piped value may itself be a pipe. -/
theorem everywhere_call {callee : Expr} {arguments : List Expr} {isPiped : Bool}
    (tight : callee.Tight operandLevel)
    (formed : ∀ argument ∈ arguments, argument.Everywhere WellFormed)
    (notPiped : ∀ argument ∈ arguments.drop (if isPiped then 1 else 0),
      argument.isPiped = false)
    (note : Note) : (call callee arguments isPiped note).Everywhere WellFormed := by
  rw [everywhere_iff]
  constructor
  · exact ⟨tight.operand, List.forall_mem_cons.mpr ⟨tight.notPiped, notPiped⟩, trivial, trivial⟩
  · exact List.forall_mem_cons.mpr ⟨tight.formed, formed⟩

theorem tight_call {callee : Expr} {arguments : List Expr} (tight : callee.Tight operandLevel)
    (tightArguments : ∀ argument ∈ arguments, argument.Tight 0) (note : Note) :
    (call callee arguments false note).Tight operandLevel where
  level := Nat.le_refl _
  notPiped := rfl
  formed := by
    apply everywhere_call tight
    · exact fun argument isArgument => (tightArguments argument isArgument).formed
    · exact fun argument isArgument => (tightArguments argument isArgument).notPiped

theorem tight_update {op : UpdateOp} {place : UpdatePlace} {argument : Expr} {least : Nat}
    (tight : argument.Tight least) (assignable : argument.isAssignable = true) (note : Note) :
    (update op place argument note).Tight updateLevel := by
  refine tight_of_children rfl rfl ?_ ?_
  · exact ⟨trivial, List.forall_mem_singleton.mpr tight.notPiped, assignable, trivial⟩
  · exact List.forall_mem_singleton.mpr tight.formed

theorem tight_unary {op : UnaryOp} {argument : Expr} (tight : argument.Tight unaryLevel)
    (note : Note) : (unary op argument note).Tight unaryLevel := by
  refine tight_of_children rfl rfl ?_ ?_
  · exact ⟨tight.level, List.forall_mem_singleton.mpr tight.notPiped, trivial, trivial⟩
  · exact List.forall_mem_singleton.mpr tight.formed

/-- Operands that an operator joins bind at least as tightly as it on its left and more
tightly on its right. -/
theorem tight_join {op : InfixOp} {left right : Expr} (tightLeft : left.Tight op.level)
    (tightRight : right.Tight (op.level + 1)) : (op.join left right).Tight op.level := by
  have pipes : ∀ child ∈ [left, right], child.isPiped = false := by
    simpa using And.intro tightLeft.notPiped tightRight.notPiped
  have below : ∀ child ∈ [left, right], child.Everywhere WellFormed := by
    simpa using And.intro tightLeft.formed tightRight.formed
  cases op with
  | binary op =>
    refine tight_of_children rfl rfl ?_ below
    exact ⟨⟨tightLeft.level, tightRight.level⟩, pipes, trivial, trivial⟩
  | logical op =>
    refine tight_of_children rfl rfl ?_ below
    exact ⟨⟨tightLeft.level, tightRight.level⟩, pipes, trivial, trivial⟩

theorem tight_conditional {test consequent alternate : Expr} (tightTest : test.Tight 1)
    (tightFirst : consequent.Tight 0) (tightSecond : alternate.Tight 0) (note : Note) :
    (conditional test consequent alternate note).Tight 0 := by
  have pipes : ∀ child ∈ [test, consequent, alternate], child.isPiped = false := by
    simp [tightTest.notPiped, tightFirst.notPiped, tightSecond.notPiped]
  have below : ∀ child ∈ [test, consequent, alternate], child.Everywhere WellFormed := by
    simp [tightTest.formed, tightFirst.formed, tightSecond.formed]
  exact tight_of_children rfl rfl ⟨tightTest.level, pipes, trivial, trivial⟩ below

/-! ## Commands and pipes -/

/-- A callee that passes its arguments on gives a call of the same shape as one that is
called itself: only the first argument may be a pipe, and only in a pipe. -/
theorem everywhere_applyTo {callee : Expr} {first extra : List Expr} {isPiped : Bool}
    (tight : callee.Tight operandLevel) (formed : ∀ value ∈ first, value.Everywhere WellFormed)
    (atMost : first.drop (if isPiped then 1 else 0) = [])
    (tightExtra : ∀ argument ∈ extra, argument.Tight unaryLevel) (span : Span) :
    (callee.applyTo first extra isPiped span).Everywhere WellFormed := by
  have general {head : Expr} {arguments : List Expr} (tightHead : head.Tight operandLevel)
      (tightArguments : ∀ argument ∈ arguments, argument.Tight 0) :
      (call head (first ++ arguments) isPiped (Note.at span)).Everywhere WellFormed := by
    apply everywhere_call tightHead
    · intro argument isArgument
      rcases List.mem_append.mp isArgument with isFirst | isLater
      · exact formed argument isFirst
      · exact (tightArguments argument isLater).formed
    · intro argument isArgument
      rw [List.drop_append, atMost, List.nil_append] at isArgument
      exact (tightArguments argument (List.mem_of_mem_drop isArgument)).notPiped
  have looseExtra : ∀ argument ∈ extra, argument.Tight 0 :=
    fun argument isExtra => (tightExtra argument isExtra).mono (Nat.zero_le _)
  rcases applyTo_cases callee first extra isPiped span with
    ⟨inner, arguments, note, -, rfl, same⟩ | same
  all_goals rw [same]
  · rw [List.append_assoc]
    have parts := tight.formed.here
    apply general
    · exact ⟨Nat.le_of_eq parts.levels.symm, parts.pipes inner List.mem_cons_self,
        tight.formed.child List.mem_cons_self⟩
    · intro argument isArgument
      rcases List.mem_append.mp isArgument with isOwn | isExtra
      · exact ⟨Nat.zero_le _, parts.pipes argument (List.mem_cons_of_mem _ isOwn),
          tight.formed.child (List.mem_cons_of_mem _ isOwn)⟩
      · exact looseExtra argument isExtra
  · exact general tight looseExtra

theorem tight_command {head : Expr} {extra : List Expr} (tight : head.Tight 0)
    (callable : head.isCallable = true)
    (tightExtra : ∀ argument ∈ extra, argument.Tight unaryLevel) :
    (head.command extra).Tight 0 where
  level := Nat.zero_le _
  notPiped := by
    rw [command]
    rcases applyTo_cases head [] extra false (spanWith head head extra) with
      ⟨_, _, _, -, -, same⟩ | same
    all_goals rw [same]; rfl
  formed := by
    have operand : head.level = operandLevel := by
      cases head <;> first | rfl | simp [isCallable] at callable
    apply everywhere_applyTo _ (by simp) rfl tightExtra
    exact ⟨Nat.le_of_eq operand.symm, tight.notPiped, tight.formed⟩

theorem everywhere_pipeInto {value segment : Expr} {extra : List Expr}
    (formed : value.Everywhere WellFormed) (tight : segment.Tight operandLevel)
    (tightExtra : ∀ argument ∈ extra, argument.Tight unaryLevel) :
    (value.pipeInto segment extra).Everywhere WellFormed := by
  apply everywhere_applyTo tight _ rfl tightExtra
  simpa using formed

end Expr

/-! ## Readers -/

namespace Grammar

open TemplateLang.Expr

/-- The shape of what is derived for a goal. -/
def Goal.WellFormed : Goal → Prop
  | .primary expr | .suffixed expr => expr.Tight operandLevel
  | .suffixes head expr => head.Tight operandLevel → expr.Tight operandLevel
  | .update expr => expr.Tight updateLevel
  | .unary expr => expr.Tight unaryLevel
  | .infixes tier tighter left expr =>
    Ranked (tier :: tighter) → left.Tight (unaryLevel - (tighter.length + 1)) →
      expr.Tight (unaryLevel - (tighter.length + 1))
  | .joined tiers expr => Ranked tiers → expr.Tight (unaryLevel - tiers.length)
  | .conditional expr | .command expr => expr.Tight 0
  | .items _ exprs => ∀ expr ∈ exprs, expr.Tight 0
  | .arguments exprs => ∀ expr ∈ exprs, expr.Tight unaryLevel
  | .pipes value expr => value.Everywhere Expr.WellFormed → expr.Everywhere Expr.WellFormed
  | .pipeline expr => expr.Everywhere Expr.WellFormed

theorem tight_of_wordExpr {cursor next : Cursor} {word : String} {expr : Expr}
    (read : wordExpr cursor word = .ok (expr, next)) : expr.Tight operandLevel := by
  cases (wordExpr_eq_ok.mp read).2 with
  | null | undefined | yes | no => exact tight_leaf rfl rfl rfl rfl trivial trivial trivial
  | identifier free => exact tight_leaf rfl rfl rfl rfl trivial trivial free

theorem tight_of_literal {cursor next : Cursor} {expr : Expr}
    (read : literal cursor = .ok (expr, next)) : expr.Tight operandLevel := by
  rcases literal_eq_ok.mp read with ⟨value, quote, -, rfl⟩ | ⟨-, value, -, rfl⟩
  · exact tight_leaf rfl rfl rfl rfl trivial trivial trivial
  · exact tight_leaf rfl rfl rfl rfl trivial trivial trivial

/-- Whatever is derived has its shape. -/
theorem Derives.wellFormed {setting : Setting} {goal : Goal} {cursor next : Cursor}
    (derived : Derives setting goal cursor next) : goal.WellFormed := by
  induction derived with
  | paren _ _ _ content => exact tight_paren content _
  | array _ _ content => exact tight_array content _
  | word _ _ _ read => exact tight_of_wordExpr read
  | literal _ _ _ read => exact tight_of_literal read
  | noSuffix => exact id
  | field _ _ _ others => exact fun tight => others (tight_field tight _ _ _)
  | item _ _ _ _ content others => exact fun tight => others (tight_item tight content _)
  | call _ _ _ content others => exact fun tight => others (tight_call tight content _)
  | suffixed _ _ start others => exact others start
  | updateBefore _ _ assignable operand => exact tight_update operand assignable _
  | updateAfter _ _ _ assignable operand => exact tight_update operand assignable _
  | noUpdate _ _ _ operand => exact operand.mono (by decide)
  | operator _ _ _ _ operand => exact (tight_unary operand _).withNote _
  | operand _ _ _ _ _ operand =>
    exact ((operand.mono (by decide)).withNote _).withNote _
  | noInfix => exact fun _ tight => tight
  | @infixMore _ tier tighter op _ _ _ _ _ _ follows _ _ operand others =>
    intro ranked tight
    have place : op.level = unaryLevel - (tighter.length + 1) := by
      have sum := ranked.1 op (mem_of_infixOp? follows)
      omega
    have right := operand ranked.2
    rw [← place] at tight
    apply others ranked
    rw [← place]
    apply tight_join tight
    have sum := ranked.1 op (mem_of_infixOp? follows)
    exact right.mono (by omega)
  | tightest _ operand => exact fun _ => operand
  | tier _ _ start others =>
    intro ranked
    apply others ranked
    exact (start ranked.2).mono (by omega)
  | test _ _ start => exact (start ranked_tiers).mono (Nat.zero_le _)
  | choice _ _ _ _ _ start first second =>
    exact tight_conditional ((start ranked_tiers).mono (by decide)) first second _
  | itemsEnd | noArgument | refused => simp [Goal.WellFormed]
  | itemsLast _ _ _ _ content => simpa [Goal.WellFormed] using content
  | itemsMore _ _ _ _ content others =>
    exact List.forall_mem_cons.mpr ⟨content, others⟩
  | argument _ _ _ operand others => exact List.forall_mem_cons.mpr ⟨operand, others⟩
  | noCommand _ _ start => exact start
  | command _ goesOn _ start arguments =>
    rw [Bool.and_eq_true] at goesOn
    exact tight_command start goesOn.1 arguments
  | noPipe => exact id
  | pipe _ _ _ _ _ _ callee arguments others =>
    exact fun formed => others (everywhere_pipeInto formed (callee.withNote _) arguments)
  | pipeline _ _ start others => exact others start.formed

end Grammar

/-- In a template that is read, every expression of every tag has its shape, with all that
stands in it, and no tag declares or binds a reserved name. -/
theorem wellFormed_of_parse {tags : Delimiters} {source : List Char} {template : Template}
    (read : parse tags source = .ok template) {statement : Statement} {span : Span}
    (has : template.HasTag statement span) :
    (∀ expr ∈ statement.heads, expr.Everywhere Expr.WellFormed) ∧
      ∀ name ∈ statement.names, isReserved name.name = false := by
  rcases tagsBetween_of_parse read with ⟨next, between⟩
  rcases between statement span has with ⟨opens, closes, -, -, -, -, inside⟩
  constructor
  · intro expr isHead
    rcases inside.heads expr isHead with ⟨setting, cursor, next, -, -, derived⟩
    exact derived.wellFormed
  · exact inside.names

/-- An assignment of an update and a pipe in parentheses. -/
theorem wellFormed_of_parse_update :
    ∃ template statement span,
      parse Delimiters.standard "\x7b\x7b n := x++ - (a | f) \x7d\x7d".toList = .ok template ∧
        template.HasTag statement span ∧ statement.heads ≠ [] ∧ statement.names ≠ [] ∧
        (∀ expr ∈ statement.heads, expr.Everywhere Expr.WellFormed) ∧
        ∀ name ∈ statement.names, isReserved name.name = false := by
  refine ⟨_, _, _, rfl, .here (List.mem_singleton.mpr rfl), ?_, ?_, ?_⟩
  · exact List.cons_ne_nil _ _
  · exact List.cons_ne_nil _ _
  · have read : parse Delimiters.standard "\x7b\x7b n := x++ - (a | f) \x7d\x7d".toList =
        .ok _ := rfl
    exact wellFormed_of_parse read (.here (List.mem_singleton.mpr rfl))

end TemplateLang
