import TemplateLang.Proofs.Scoping.Agreement
import TemplateLang.Syntax.Mentions

/-!
# What expressions and templates read and write

An expression reads the names that stand in it and writes the variables that it changes by
`++` and `--`; a template writes the names that it declares besides.  All else that they read
and write, they do through the helpers that they call.  So they are confined to names as
their own names and their helpers are, and the helpers of the language, but for `eval` and
`define`, neither read nor write a variable.
-/

namespace TemplateLang

open TemplateLang.Action

/-! ## Syntax within names -/

/-- What an expression itself reads, writes and calls is in sets of names. -/
def Expr.Allowed (reads writes calls : Set String) : Expr → Prop
  | identifier name _ => name ∈ reads
  | call (identifier name _) _ _ _ => name ∈ calls
  | update _ _ target _ => ∀ name, target.root? = some name → name ∈ writes
  | _ => True

/-- What an expression reads, writes and calls anywhere in it is in sets of names. -/
def Expr.Within (reads writes calls : Set String) (expr : Expr) : Prop :=
  expr.Everywhere (Expr.Allowed reads writes calls)

/-- An expression is within all sets that hold the names that stand in it, those that it changes
and those that it calls. -/
theorem Expr.within_of_names {reads writes calls : Set String} {expr : Expr}
    (identifiers : ∀ name ∈ expr.identifiers, name ∈ reads)
    (updated : ∀ name ∈ expr.updated, name ∈ writes)
    (callees : ∀ name ∈ expr.callees, name ∈ calls) : expr.Within reads writes calls := by
  intro part isPart
  unfold Expr.Allowed
  split
  · exact identifiers _ isPart.mem_identifiers
  · exact callees _ isPart.mem_callees
  · exact fun name rooted => updated name (isPart.mem_updated rooted)
  · exact trivial

/-- What a statement reads, writes and calls outside of its bodies is in sets of names. -/
structure Statement.Within (reads writes calls : Set String) (statement : Statement) : Prop where
  heads : ∀ head ∈ statement.heads, head.Within reads writes calls
  names : ∀ name ∈ statement.names, name.name ∈ writes

/-- Helpers that are confined: those that are named, if they are called without arguments,
and those in a set of names on all arguments. -/
structure Callables.Confined (reads writes calls : Set String) (helpers : Callables) : Prop where
  bare : ∀ {name helper}, name ∈ reads → helpers name = some helper →
    (helper []).Confined reads writes
  called : ∀ {name helper}, name ∈ calls → helpers name = some helper →
    ∀ arguments, (helper arguments).Confined reads writes

section

variable {reads writes calls : Set String} {helpers : Callables}

/-! ## Expressions -/

namespace Meaning

/-- A meaning of which both the value and the place are confined. -/
structure Confined (reads writes : Set String) (meaning : Meaning) : Prop where
  value : meaning.value.Confined reads writes
  place : ∀ keys, (meaning.place keys).Confined reads writes

theorem confined_ofValue {value : Action EvalError Value}
    (confined : value.Confined reads writes) : (ofValue value).Confined reads writes :=
  ⟨confined, fun _ => confined.bind fun _ => confined_pure _⟩

theorem confined_ofName (confined : helpers.Confined reads writes calls) {name : String}
    (isRead : name ∈ reads) (span : Span) :
    (ofName helpers name span).Confined reads writes := by
  refine (confined_lookup isRead).bind fun found => ?_
  cases found with
  | some value => exact confined_pure value
  | none =>
    dsimp only
    split
    · rename_i helper isHelper
      exact (confined.bare isRead isHelper).mapFailure _
    · exact confined_throw _

theorem confined_ofCall (confined : helpers.Confined reads writes calls) {name : String}
    (isRead : name ∈ reads) (isCalled : name ∈ calls) (calleeSpan span : Span)
    {arguments : Action EvalError (List Value)}
    (confinedArguments : arguments.Confined reads writes) :
    (ofCall helpers name calleeSpan span arguments).Confined reads writes := by
  unfold ofCall
  split
  · rename_i helper isHelper
    refine confinedArguments.bind fun values => ?_
    exact (confined.called isCalled isHelper values).mapFailure _
  · refine (confined_lookup isRead).bind fun found => ?_
    cases found <;> exact confined_throw _

theorem confined_ofMember {owner : Meaning} (confined : owner.Confined reads writes)
    {key : Action EvalError Key} (confinedKey : key.Confined reads writes) (span : Span) :
    (ofMember owner key span).Confined reads writes where
  value := confined.value.bind fun _ => confinedKey.bind fun _ => confined_ofExcept _
  place _ := confinedKey.bind fun _ => confined.place _

/-- An update reads and writes the variable that it starts from. -/
theorem confined_updateAt (op : UpdateOp) (order : UpdatePlace) (span : Span) {target : Place}
    (inside : ∀ name nameSpan, target.root = .variable name nameSpan →
      name ∈ reads ∧ name ∈ writes) :
    (updateAt op order span target).Confined reads writes := by
  unfold updateAt
  dsimp only
  split
  · rename_i name nameSpan isVariable
    obtain ⟨isRead, isWritten⟩ := inside name nameSpan isVariable
    refine (confined_lookup isRead).bind fun found => ?_
    cases found with
    | none => exact (confined_throw _).bind fun _ => confined_pure _
    | some value =>
      refine (confined_ofExcept _).bind fun _ => (confined_declare isWritten _).bind fun _ => ?_
      exact (confined_pure _).bind fun _ => confined_pure _
  · exact (confined_ofExcept _).bind fun _ => (confined_pure _).bind fun _ => confined_pure _

/-- The place of a value without a name starts from no variable. -/
theorem unnamed_of_gives {value : Action EvalError Value} {keys : List Key}
    {scopes after : Scopes} {target : Place}
    (given : ((ofValue value).place keys).Gives scopes target after) :
    ∃ unnamed, target.root = .unnamed unnamed := by
  obtain ⟨found, _, -, rest⟩ := gives_bind.mp given
  obtain ⟨rfl, -⟩ := gives_pure.mp rest
  exact ⟨found, rfl⟩

end Meaning

namespace Expr

open Meaning

/-- A place that starts from a variable starts from the one that its expression does. -/
theorem root?_of_gives {expr : Expr} {keys : List Key} {scopes after : Scopes} {target : Place}
    (given : ((expr.meaning helpers).place keys).Gives scopes target after) {name : String}
    {span : Span} (isVariable : target.root = .variable name span) :
    expr.root? = some name := by
  fun_induction root? expr generalizing keys scopes with
  | case1 root note =>
    rw [meaning] at given
    obtain ⟨rfl, -⟩ := gives_pure.mp given
    cases isVariable
    rfl
  | case2 object _ _ _ ih | case3 object _ _ ih =>
    rw [meaning] at given
    obtain ⟨_, _, -, rest⟩ := gives_bind.mp given
    exact ih rest
  | case4 inner _ ih =>
    rw [meaning] at given
    exact ih given
  | case5 expr notIdentifier notField notItem notParen =>
    have none : ∃ unnamed, target.root = .unnamed unnamed := by
      cases expr with
      | identifier name note => exact absurd rfl (notIdentifier name note)
      | field object key keySpan note => exact absurd rfl (notField object key keySpan note)
      | item object key note => exact absurd rfl (notItem object key note)
      | paren inner note => exact absurd rfl (notParen inner note)
      | _ =>
        unfold meaning at given
        exact unnamed_of_gives given
    obtain ⟨unnamed, isUnnamed⟩ := none
    rw [isUnnamed] at isVariable
    cases isVariable

mutual

/-- The meaning of an expression is confined to its names, if the helpers are. -/
theorem confined_meaning (confined : helpers.Confined reads writes calls) :
    ∀ expr : Expr, expr.Within reads writes calls → (expr.meaning helpers).Confined reads writes
  | .null _, _ | .undefined _, _ | .boolean _ _, _ | .number _ _, _ | .text _ _ _, _ => by
    unfold meaning
    exact confined_ofValue (confined_pure _)
  | .identifier name note, within => by
    unfold meaning
    exact ⟨confined_ofName confined within.here note.span, fun _ => confined_pure _⟩
  | .array items _, within => by
    unfold meaning
    refine confined_ofValue ((confined_values confined items ?_).bind fun _ => confined_pure _)
    exact fun item isItem => within.child isItem
  | .field object _ _ _, within => by
    unfold meaning
    refine confined_ofMember (confined_meaning confined object ?_) (confined_ofExcept _) _
    exact within.child (by simp [children])
  | .item object key _, within => by
    unfold meaning
    have withinKey : key.Within reads writes calls := within.child (by simp [children])
    refine confined_ofMember (confined_meaning confined object ?_) ?_ _
    · exact within.child (by simp [children])
    · exact (confined_meaning confined key withinKey).value.bind fun _ => confined_ofExcept _
  | .call callee arguments _ _, within => by
    unfold meaning
    have withinCallee : callee.Within reads writes calls := within.child (by simp [children])
    have confinedArguments := confined_values confined arguments fun argument isArgument =>
      within.child (List.mem_cons_of_mem _ isArgument)
    refine confined_ofValue ?_
    split
    · exact confined_ofCall confined withinCallee.here within.here _ _ confinedArguments
    · exact (confined_meaning confined callee withinCallee).value.bind fun _ => confined_throw _
  | .unary _ argument _, within => by
    unfold meaning
    have withinArgument : argument.Within reads writes calls := within.child (by simp [children])
    refine confined_ofValue ?_
    exact (confined_meaning confined argument withinArgument).value.bind fun _ =>
      confined_ofExcept _
  | .update op order argument note, within => by
    unfold meaning
    have withinArgument : argument.Within reads writes calls := within.child (by simp [children])
    have confinedPlace := (confined_meaning confined argument withinArgument).place []
    refine confined_ofValue (confinedPlace.bind_gives fun target _ _ given => ?_)
    refine confined_updateAt op order note.span ?_
    intro name nameSpan isVariable
    have rooted := root?_of_gives given isVariable
    obtain ⟨rootNote, isPart⟩ := part_of_root? rooted
    exact ⟨withinArgument _ isPart, within.here name rooted⟩
  | .binary _ left right _, within => by
    unfold meaning
    have withinLeft : left.Within reads writes calls := within.child (by simp [children])
    have withinRight : right.Within reads writes calls := within.child (by simp [children])
    refine confined_ofValue ((confined_meaning confined left withinLeft).value.bind fun _ => ?_)
    exact (confined_meaning confined right withinRight).value.bind fun _ => confined_ofExcept _
  | .logical op left right _, within => by
    unfold meaning
    have withinLeft : left.Within reads writes calls := within.child (by simp [children])
    have withinRight : right.Within reads writes calls := within.child (by simp [children])
    refine confined_ofValue ((confined_meaning confined left withinLeft).value.bind fun _ => ?_)
    split
    · exact confined_pure _
    · exact (confined_meaning confined right withinRight).value
  | .conditional test consequent alternate _, within => by
    unfold meaning
    have withinTest : test.Within reads writes calls := within.child (by simp [children])
    have withinFirst : consequent.Within reads writes calls := within.child (by simp [children])
    have withinSecond : alternate.Within reads writes calls := within.child (by simp [children])
    refine confined_ofValue ((confined_meaning confined test withinTest).value.bind fun _ => ?_)
    split
    · exact (confined_meaning confined consequent withinFirst).value
    · exact (confined_meaning confined alternate withinSecond).value
  | .paren inner _, within => by
    unfold meaning
    exact confined_meaning confined inner (within.child (by simp [children]))

/-- The values of expressions are found in actions that are confined to their names. -/
theorem confined_values (confined : helpers.Confined reads writes calls) :
    ∀ exprs : List Expr, (∀ expr ∈ exprs, expr.Within reads writes calls) →
      (values helpers exprs).Confined reads writes
  | [], _ => by
    unfold values
    exact confined_pure []
  | expr :: others, within => by
    rw [List.forall_mem_cons] at within
    unfold values
    refine (confined_meaning confined expr within.1).value.bind fun _ => ?_
    exact (confined_values confined others within.2).bind fun _ => confined_pure _

end

/-- Evaluating an expression is confined to its names, if the helpers are. -/
theorem confined_evaluate (confined : helpers.Confined reads writes calls) {expr : Expr}
    (within : expr.Within reads writes calls) : (expr.evaluate helpers).Confined reads writes :=
  (confined_meaning confined expr within).value

end Expr

/-! ## Templates -/

theorem confined_enclosed {render : Output → Action EvalError (Output × Flow)}
    (confined : ∀ output, (render output).Confined reads writes) (trimsStart trimsEnd : Bool) :
    (enclosed trimsStart trimsEnd render).Confined reads writes :=
  (confined _).bind fun _ => confined_pure _

theorem confined_rounds {round : Value → Nat → Action EvalError Written}
    (confined : ∀ item position, (round item position).Confined reads writes)
    (items : List Value) (position : Nat) :
    (rounds round items position).Confined reads writes := by
  induction items generalizing position with
  | nil => exact confined_pure ""
  | cons item others ih =>
    refine (confined item position).bind fun written => ?_
    split
    · exact confined_pure _
    · exact (ih (position + 1)).bind fun _ => confined_pure _

mutual

/-- Rendering elements is confined to the names of their statements, if the helpers are. -/
theorem confined_renderElements (confined : helpers.Confined reads writes calls) :
    ∀ (elements : List Element) (output : Output),
      (∀ statement ∈ statementsIn elements, statement.Within reads writes calls) →
        (renderElements helpers elements output).Confined reads writes
  | [], output, _ => by
    unfold renderElements
    exact confined_pure _
  | .raw _ _ :: others, output, within => by
    unfold renderElements
    exact confined_renderElements confined others _ within
  | .tag _ statement _ _ :: others, output, within => by
    rw [statementsIn, List.forall_mem_cons, List.forall_mem_append] at within
    obtain ⟨here, inner, after⟩ := within
    unfold renderElements
    refine (confined_renderStatement confined statement here inner).bind fun written => ?_
    dsimp only
    split
    · exact confined_renderElements confined others _ after
    · exact confined_pure _

theorem confined_renderStatement (confined : helpers.Confined reads writes calls) :
    ∀ statement : Statement, statement.Within reads writes calls →
      (∀ inner ∈ statement.inner, inner.Within reads writes calls) →
        (renderStatement helpers statement).Confined reads writes
  | .empty, _, _ | .breakLoop _, _, _ | .continueLoop _, _, _ => by
    unfold renderStatement
    exact confined_pure _
  | .expression expr, within, _ => by
    unfold renderStatement
    have withinExpr := within.heads expr (by simp [Statement.heads])
    exact (Expr.confined_evaluate confined withinExpr).bind fun _ => confined_pure _
  | .assign target expr _, within, _ => by
    unfold renderStatement
    have withinExpr := within.heads expr (by simp [Statement.heads])
    have isWritten := within.names target (by simp [Statement.names])
    refine (Expr.confined_evaluate confined withinExpr).bind fun _ => ?_
    exact (confined_declare isWritten _).bind fun _ => confined_pure _
  | .branch branch, within, inner => by
    unfold renderStatement
    exact confined_renderBranch confined branch within.heads inner
  | .loop _ _ iterable _ body _ _, within, inner => by
    unfold renderStatement
    have withinExpr := within.heads iterable (by simp [Statement.heads])
    refine (Expr.confined_evaluate confined withinExpr).bind fun _ => ?_
    refine (confined_ofExcept _).bind fun items => ?_
    refine Confined.bind ?_ fun _ => confined_pure _
    refine confined_rounds (fun item position => ?_) items 0
    refine (confined_enclosed (fun output => ?_) _ _).inFrame _
    exact confined_renderElements confined body output inner

theorem confined_renderBranch (confined : helpers.Confined reads writes calls) :
    ∀ branch : Branch, (∀ head ∈ branch.heads, head.Within reads writes calls) →
      (∀ inner ∈ branch.inner, inner.Within reads writes calls) →
        (renderBranch helpers branch).Confined reads writes
  | .mk test _ body alternate _, heads, inner => by
    rw [Branch.heads, List.forall_mem_cons] at heads
    rw [Branch.inner, List.forall_mem_append] at inner
    unfold renderBranch
    refine (Expr.confined_evaluate confined heads.1).bind fun _ => ?_
    split
    · refine confined_enclosed (fun output => ?_) _ _
      exact confined_renderElements confined body output inner.1
    · exact confined_renderAlternate confined alternate heads.2 inner.2

theorem confined_renderAlternate (confined : helpers.Confined reads writes calls) :
    ∀ alternate : Alternate, (∀ head ∈ alternate.heads, head.Within reads writes calls) →
      (∀ inner ∈ alternate.inner, inner.Within reads writes calls) →
        (renderAlternate helpers alternate).Confined reads writes
  | .done _, _, _ => by
    unfold renderAlternate
    exact confined_pure _
  | .otherwise _ _ body _, _, inner => by
    unfold renderAlternate
    exact confined_enclosed (fun output => confined_renderElements confined body output inner) _ _
  | .chain _ next, heads, inner => by
    unfold renderAlternate
    exact confined_renderBranch confined next heads inner

end

/-- Rendering a template is confined to its names, if the helpers are. -/
theorem Template.confined_evaluate (confined : helpers.Confined reads writes calls)
    {template : Template}
    (within : ∀ statement ∈ template.statements, statement.Within reads writes calls) :
    (template.evaluate helpers).Confined reads writes := by
  refine (confined_enclosed (fun output => ?_) false false).bind fun _ => confined_pure _
  exact confined_renderElements confined template.elements output within

end

/-! ## Everything is within all names -/

theorem Expr.within_univ (expr : Expr) : expr.Within Set.univ Set.univ Set.univ :=
  within_of_names (fun _ _ => trivial) (fun _ _ => trivial) fun _ _ => trivial

theorem Statement.within_univ (statement : Statement) :
    statement.Within Set.univ Set.univ Set.univ :=
  ⟨fun head _ => head.within_univ, fun _ _ => trivial⟩

/-! ## Helpers of the language -/

namespace Helper

variable {reads writes : Set String}

theorem confined_collect {apply : Value → Action HelperFault Value}
    (confined : ∀ item, (apply item).Confined reads writes) (items : List Value) :
    (collect apply items).Confined reads writes := by
  induction items with
  | nil => exact confined_pure []
  | cons item others ih =>
    exact (confined item).bind fun _ => ih.bind fun _ => confined_pure _

theorem confined_mapped {apply : List Value → Action HelperFault Value}
    (confined : ∀ arguments, (apply arguments).Confined reads writes) (arguments : List Value) :
    (mapped apply arguments).Confined reads writes := by
  unfold mapped
  split
  · exact (confined_collect (fun _ => confined _) _).bind fun _ => confined_pure _
  · exact confined arguments

variable {world : World} {directory : String} {evaluateText : String → Action HelperFault Value}

theorem confined_call {builtin : Builtin}
    (confined : ∀ arguments,
      (builtin.run world directory evaluateText arguments).Confined reads writes)
    (arguments : List Value) :
    ((ofBuiltin builtin).call world directory evaluateText arguments).Confined reads writes := by
  by_cases maps : builtin.mapsArrays = true
  · rw [call, ofBuiltin, if_pos maps]
    exact confined_mapped confined arguments
  · rw [call, ofBuiltin, if_neg maps]
    exact confined arguments

/-- Without arguments there is no array to go through. -/
theorem call_nil (builtin : Builtin) :
    (ofBuiltin builtin).call world directory evaluateText [] =
      builtin.run world directory evaluateText [] := by
  by_cases maps : builtin.mapsArrays = true
  · rw [call, ofBuiltin, if_pos maps]
    rfl
  · rw [call, ofBuiltin, if_neg maps]

/-- A helper of the language neither reads nor writes a variable, if it neither evaluates
texts nor defines variables. -/
theorem confined_run {builtin : Builtin} (notEval : builtin ≠ .eval)
    (notDefine : builtin ≠ .define) (arguments : List Value) :
    (builtin.run world directory evaluateText arguments).Confined reads writes := by
  cases builtin with
  | eval => exact absurd rfl notEval
  | define => exact absurd rfl notDefine
  | _ => exact confined_of_still fun _ => rfl

theorem confined_define (arguments : List Value) : (define arguments).Confined reads Set.univ := by
  unfold define
  split
  · split
    · exact confined_throw _
    · exact (confined_declare (Set.mem_univ _) _).bind fun _ => confined_pure _
  · exact confined_throw _

theorem confined_evaluateText {callables : Callables}
    (confined : callables.Confined Set.univ Set.univ Set.univ) (text : String) :
    (Helper.evaluateText callables text).Confined Set.univ Set.univ := by
  unfold Helper.evaluateText
  split
  · rename_i expr _
    exact (Expr.confined_evaluate confined expr.within_univ).mapFailure _
  · exact confined_throw _

/-- A text that is not an expression is evaluated without a look at the variables. -/
theorem confined_evaluateText_of_refused {callables : Callables} {text : String}
    (refused : ∀ expr, parseExpression text.toList ≠ .ok expr) :
    (Helper.evaluateText callables text).Confined reads writes := by
  unfold Helper.evaluateText
  split
  · rename_i expr read
    exact absurd read (refused expr)
  · exact confined_throw _

/-- A helper of the language reads variables by their names only, if the evaluation of texts
does. -/
theorem confined_run_univ
    (evaluates : ∀ text, (evaluateText text).Confined Set.univ Set.univ) {builtin : Builtin}
    (arguments : List Value) :
    (builtin.run world directory evaluateText arguments).Confined Set.univ Set.univ := by
  by_cases isEval : builtin = .eval
  · subst isEval
    exact evaluates _
  by_cases isDefine : builtin = .define
  · subst isDefine
    exact confined_define arguments
  · exact confined_run isEval isDefine arguments

end Helper

namespace Helpers

variable {reads writes : Set String} {world : World} {directory : String}

/-- How helpers evaluate texts at a depth. -/
def evaluatorAt (helpers : Helpers) (world : World) (directory : String) :
    Nat → String → Action HelperFault Value
  | 0 => fun _ => throw .expressionTooDeep
  | depth + 1 => Helper.evaluateText (callablesAt helpers world directory depth)

theorem callablesAt_eq (helpers : Helpers) (depth : Nat) (name : String) :
    helpers.callablesAt world directory depth name =
      (Table.get? helpers name).map
        (Helper.call world directory (helpers.evaluatorAt world directory depth)) := by
  cases depth <;> rfl

/-- A helper of the language as it is called. -/
theorem exists_of_callablesAt_builtin {depth : Nat} {name : String}
    {called : List Value → Action HelperFault Value}
    (isCalled : builtin.callablesAt world directory depth name = some called) :
    ∃ helper : Builtin, helper.name = name ∧
      called = (Helper.ofBuiltin helper).call world directory
        (builtin.evaluatorAt world directory depth) := by
  rw [callablesAt_eq] at isCalled
  obtain ⟨helper, isHelper, rfl⟩ := Option.map_eq_some_iff.mp isCalled
  obtain ⟨builtin, isName, rfl⟩ := exists_of_get?_builtin isHelper
  exact ⟨builtin, isName, rfl⟩

/-- The empty text is not an expression. -/
theorem parseExpression_empty_ne_ok (expr : Expr) : parseExpression "".toList ≠ .ok expr := by
  have refused : (parseExpression "".toList).toOption.isNone = true := by decide +kernel
  intro read
  rw [read] at refused
  exact Bool.noConfusion refused

theorem confined_evaluatorAt_empty (depth : Nat) :
    (builtin.evaluatorAt world directory depth "").Confined reads writes := by
  cases depth with
  | zero => exact confined_throw _
  | succ depth =>
    rw [evaluatorAt]
    exact Helper.confined_evaluateText_of_refused parseExpression_empty_ne_ok

/-- Helpers of the language read and write no variable, if they are called without arguments
or are neither `eval` nor `define`. -/
theorem confined_builtin (depth : Nat) :
    (builtin.callablesAt world directory depth).Confined reads writes {"eval", "define"}ᶜ where
  bare _ isCalled := by
    obtain ⟨helper, -, rfl⟩ := exists_of_callablesAt_builtin isCalled
    rw [Helper.call_nil]
    by_cases isEval : helper = .eval
    · subst isEval
      have isEmpty : Helper.textArgument [] 0 = "" := rfl
      rw [Builtin.run, isEmpty]
      exact confined_evaluatorAt_empty depth
    by_cases isDefine : helper = .define
    · subst isDefine
      exact confined_throw _
    · exact Helper.confined_run isEval isDefine []
  called isAllowed isCalled arguments := by
    obtain ⟨helper, rfl, rfl⟩ := exists_of_callablesAt_builtin isCalled
    apply Helper.confined_call
    apply Helper.confined_run
    · rintro rfl
      exact isAllowed (.inl rfl)
    · rintro rfl
      exact isAllowed (.inr rfl)

/-- Helpers of the language read variables by their names only. -/
theorem confined_builtin_univ (depth : Nat) :
    (builtin.callablesAt world directory depth).Confined Set.univ Set.univ Set.univ := by
  have confined_of_evaluator (depth : Nat)
      (evaluates : ∀ text, (builtin.evaluatorAt world directory depth text).Confined
        Set.univ Set.univ) :
      (builtin.callablesAt world directory depth).Confined Set.univ Set.univ Set.univ := by
    have confined {name : String} {called : List Value → Action HelperFault Value}
        (isCalled : builtin.callablesAt world directory depth name = some called)
        (arguments : List Value) : (called arguments).Confined Set.univ Set.univ := by
      obtain ⟨helper, -, rfl⟩ := exists_of_callablesAt_builtin isCalled
      exact Helper.confined_call (Helper.confined_run_univ evaluates) arguments
    exact ⟨fun _ isCalled => confined isCalled [], fun _ => confined⟩
  induction depth with
  | zero => exact confined_of_evaluator 0 fun _ => confined_throw _
  | succ depth ih =>
    exact confined_of_evaluator (depth + 1) (Helper.confined_evaluateText ih)

end Helpers

end TemplateLang
