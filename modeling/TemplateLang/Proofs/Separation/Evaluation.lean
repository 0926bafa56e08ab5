import TemplateLang.Engine.Context
import TemplateLang.Proofs.Essence.Shift
import TemplateLang.Proofs.Scoping.Confinement
import TemplateLang.Proofs.Separation.Tag

/-!
# Texts that are evaluated

The helper `eval` evaluates a text as the tag with that text is evaluated.  Its expression may
call `eval` again, one level less deep than the tag could, and only an expression that goes
down to the very bottom can tell the difference.
-/

namespace TemplateLang

/-! ## Depth -/

namespace Helpers

variable (helpers : Helpers) (world : World) (directory : String)

/-- How helpers evaluate texts at a depth, when something is given for what lies below. -/
def evaluatorOver (bottom : String → Action HelperFault Value) :
    Nat → String → Action HelperFault Value
  | 0 => bottom
  | depth + 1 => Helper.evaluateText fun name =>
    (Table.get? helpers name).map
      (Helper.call world directory (evaluatorOver bottom depth))

/-- Helpers as they can be called at a depth, over something below. -/
def callablesOver (bottom : String → Action HelperFault Value) (depth : Nat) : Callables :=
  fun name => (Table.get? helpers name).map
    (Helper.call world directory (helpers.evaluatorOver world directory bottom depth))

variable {helpers world directory}

/-- The evaluation of texts at a depth lies over the one at a lesser depth. -/
theorem evaluatorOver_evaluatorAt (depth more : Nat) :
    helpers.evaluatorOver world directory (helpers.evaluatorAt world directory more) depth =
      helpers.evaluatorAt world directory (more + depth) := by
  induction depth with
  | zero => rfl
  | succ depth ih =>
    rw [evaluatorOver, ih, Nat.add_succ, evaluatorAt]
    congr 1
    funext name
    exact (callablesAt_eq helpers (more + depth) name).symm

theorem callablesOver_evaluatorAt (depth more : Nat) :
    helpers.callablesOver world directory (helpers.evaluatorAt world directory more) depth =
      helpers.callablesAt world directory (more + depth) := by
  funext name
  rw [callablesOver, evaluatorOver_evaluatorAt, callablesAt_eq]

end Helpers

/-- An expression does not go deeper than a depth: whatever lies below, it is evaluated as when
nothing does. -/
def Expr.StaysWithin (helpers : Helpers) (world : World) (directory : String) (depth : Nat)
    (scopes : Scopes) (expr : Expr) : Prop :=
  ∀ bottom, (expr.evaluate (helpers.callablesOver world directory bottom depth)).on scopes =
    (expr.evaluate (helpers.callablesAt world directory depth)).on scopes

/-! ## The helper -/

/-- The helper that evaluates texts. -/
def Helper.eval : Helper :=
  ⟨.builtin .eval, Builtin.eval.mapsArrays⟩

/-- An expression and a helper end alike: with the same value or the same message, and with all
else the same. -/
def SaysSame {σ : Type} (evaluated : Except EvalError Value × σ)
    (called : Except HelperFault Value × σ) : Prop :=
  evaluated.1.mapError (·.fault.message) = called.1.mapError (·.message) ∧
    evaluated.2 = called.2

variable {text : String} {expr : Expr}

/-- What ends like the expression of a text says the same as the evaluation of the text. -/
theorem saysSame_evaluateText (read : parseExpression text.toList = .ok expr)
    {callables : Callables} {scopes : Scopes} {ended : Except EvalError Value × Scopes}
    (agree : Agree Eq ended ((expr.evaluate callables).on scopes)) :
    SaysSame ended ((Helper.evaluateText callables text).on scopes) := by
  unfold Helper.evaluateText Action.mapFailure
  rw [read]
  dsimp only
  rw [Action.on_ofFunction]
  generalize (expr.evaluate callables).on scopes = ended' at agree ⊢
  cases agree with
  | ok values =>
    rw [values]
    exact ⟨rfl, rfl⟩
  | error faults => exact ⟨congrArg Except.error (congrArg EvalFault.message faults), rfl⟩

/-- At each depth the helper evaluates a text as is done one level below. -/
theorem callablesAt_eval {helpers : Helpers} (isEval : Table.get? helpers "eval" = some .eval)
    (world : World) (directory : String) (depth : Nat) :
    ∃ called, helpers.callablesAt world directory (depth + 1) "eval" = some called ∧
      ∀ text : String, called [.text text] =
        Helper.evaluateText (helpers.callablesAt world directory depth) text := by
  refine ⟨Helper.call world directory
    (Helper.evaluateText (helpers.callablesAt world directory depth)) .eval, ?_, fun _ => rfl⟩
  simp only [Helpers.callablesAt, isEval, Option.map_some]

/-- The two entry points for expressions agree.  A text that is an expression without comments
is read in a tag as that expression, moved by what comes before it.  The tag's expression and
the helper `eval` on the text give the same value or the same message, and leave the same
variables: with the helpers of each depth, where the helper works one level further up, and in
a context, where both work at the greatest depth, for an expression that stays within it. -/
theorem expression_entries_agree (read : parseExpression text.toList = .ok expr)
    (noComments : expr.comments = []) :
    (∃ opening closing span,
      parse .standard (inTag text).toList =
        .ok ⟨[.tag opening (.expression (expr.shift 3)) closing span]⟩ ∧
      (opening.trims = false ∧ closing.trims = false) ∧
      opening.comments = [] ∧ closing.comments = []) ∧
    (∀ (helpers : Helpers) (world : World) (directory : String) (depth : Nat) (scopes : Scopes),
      Table.get? helpers "eval" = some .eval →
      ∃ called, helpers.callablesAt world directory (depth + 1) "eval" = some called ∧
        SaysSame (((expr.shift 3).evaluate (helpers.callablesAt world directory depth)).on scopes)
          ((called [.text text]).on scopes)) ∧
    (∀ (context : Context) (world : World),
      Table.get? context.helpers "eval" = some .eval →
      expr.StaysWithin context.helpers world context.directory (Helpers.maxDepth - 1)
        context.scopes →
      ∃ called, context.call? world "eval" [.text text] = some called ∧
        SaysSame (context.evaluate world (expr.shift 3)) called) := by
  refine ⟨parse_inTag read noComments, ?_, ?_⟩
  · intro helpers world directory depth scopes isEval
    rcases callablesAt_eval isEval world directory depth with ⟨called, isCalled, calls⟩
    refine ⟨called, isCalled, ?_⟩
    rw [calls]
    exact saysSame_evaluateText read (Expr.agrees_of_essence (Expr.essence_shift 3 expr) scopes)
  · intro context world isEval within
    rcases callablesAt_eval isEval world context.directory (Helpers.maxDepth - 1) with
      ⟨called, isCalled, calls⟩
    have agree : Agree Eq (((expr.shift 3).evaluate (context.callables world)).on context.scopes)
        ((expr.evaluate (context.helpers.callablesAt world context.directory
          (1 + (Helpers.maxDepth - 1)))).on context.scopes) :=
      Expr.agrees_of_essence (Expr.essence_shift 3 expr) context.scopes
    have deepest := within (context.helpers.evaluatorAt world context.directory 1)
    rw [Helpers.callablesOver_evaluatorAt] at deepest
    rw [deepest] at agree
    have same := saysSame_evaluateText read agree
    rw [← calls] at same
    refine ⟨_, congrArg (Option.map _) isCalled, same.1, ?_⟩
    exact congrArg (fun scopes : Scopes => { context with scopes := scopes }) same.2

/-- The call `upper(name)` at the start of a text. -/
def upperName : Expr :=
  .call (.identifier "upper" (.at (Span.between 0 5)))
    [.identifier "name" (.at (Span.between 6 10))] false (.at (Span.between 0 11))

/-- A call that reads a variable, in the context that the language gives by itself. -/
theorem expression_entries_agree_on_call :
    let world : World := ⟨⟨[], [], []⟩, ⟨0, 0, 0⟩⟩
    let context := Context.create "" ⟨none, none, [("name", .text "ada")], []⟩
    parseExpression "upper(name)".toList = .ok upperName ∧ upperName.comments = [] ∧
      ∃ called, context.call? world "eval" [.text "upper(name)"] = some called ∧
        SaysSame (context.evaluate world (upperName.shift 3)) called := by
  intro world context
  have read : parseExpression "upper(name)".toList = .ok upperName := rfl
  have gives (evaluate : String → Action HelperFault Value) :
      (upperName.evaluate fun name => (Table.get? context.helpers name).map
        (Helper.call world "" evaluate)).on context.scopes = (.ok (.text "ADA"), context.scopes) :=
    rfl
  have within : upperName.StaysWithin context.helpers world "" (Helpers.maxDepth - 1)
      context.scopes := by
    intro bottom
    have nothing : context.helpers.callablesAt world "" (Helpers.maxDepth - 1) =
        context.helpers.callablesOver world "" (context.helpers.evaluatorAt world "" 0)
          (Helpers.maxDepth - 1) := by
      rw [Helpers.callablesOver_evaluatorAt, Nat.zero_add]
    rw [nothing]
    exact (gives _).trans (gives _).symm
  exact ⟨read, rfl, (expression_entries_agree read rfl).2.2 context world rfl within⟩

end TemplateLang
