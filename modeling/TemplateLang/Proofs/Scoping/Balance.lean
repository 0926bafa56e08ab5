import TemplateLang.Engine.Context
import TemplateLang.Proofs.Scoping.Frames

/-!
# Scopes are balanced

Whatever an expression or a template does, and however it ends, it leaves the frames that
it found: no frame is left over or lost, none has other names than before, and the root
has at most gained names.  A loop leaves its variables, outside of it, as they were when
it began.

An action that does so on all scopes is steady.  Sequences and frames make steady actions
from steady ones, so that the proofs follow the clauses of the evaluator; the helpers of
the language are steady at every depth to which they evaluate expressions.
-/

namespace TemplateLang

namespace Action

variable {ε ε' α β : Type}

/-- An action whose scopes afterwards are related to those before, whether it succeeds or
fails. -/
def Along (related : Scopes → Scopes → Prop) (action : Action ε α) : Prop :=
  ∀ scopes, related scopes (action.on scopes).2

/-- A sequence goes along with what its parts go along with. -/
theorem Along.bind {related : Scopes → Scopes → Prop}
    (trans : ∀ before middle after, related before middle → related middle after →
      related before after)
    {action : Action ε α} {next : α → Action ε β} (first : action.Along related)
    (second : ∀ value, (next value).Along related) : (action >>= next).Along related := by
  intro scopes
  have one := first scopes
  rw [on_bind]
  generalize action.on scopes = ran at one ⊢
  rcases ran with ⟨failure | value, middle⟩
  · exact one
  · exact trans _ _ _ one (second value middle)

/-- An action that keeps any scopes. -/
def Steady (action : Action ε α) : Prop :=
  action.Along Scopes.Keeps

theorem steady_pure (value : α) : Steady (pure value : Action ε α) :=
  Scopes.Keeps.refl

theorem steady_throw (failure : ε) : Steady (throw failure : Action ε α) :=
  Scopes.Keeps.refl

theorem steady_ofExcept (result : Except ε α) : Steady (ofExcept result) :=
  Scopes.Keeps.refl

theorem steady_lookup (name : String) : Steady (lookup name : Action ε (Option Value)) :=
  Scopes.Keeps.refl

theorem steady_declare (name : String) (value : Value) :
    Steady (declare name value : Action ε Unit) :=
  fun scopes => scopes.keeps_declare name value

theorem Steady.bind {action : Action ε α} {next : α → Action ε β} (first : action.Steady)
    (second : ∀ value, (next value).Steady) : (action >>= next).Steady := by
  have trans : ∀ before middle after : Scopes, before.Keeps middle → middle.Keeps after →
      before.Keeps after := fun _ _ _ => Scopes.Keeps.trans
  exact Along.bind trans first second

theorem Steady.mapFailure {action : Action ε α} (steady : action.Steady) (f : ε → ε') :
    (action.mapFailure f).Steady := by
  intro scopes
  have kept := steady scopes
  simp only [Action.mapFailure, on_ofFunction]
  generalize action.on scopes = ran at kept ⊢
  rcases ran with ⟨failure | value, after⟩
  · exact kept
  · exact kept

/-- A frame that is entered is left. -/
theorem Steady.inFrame {action : Action ε α} (steady : action.Steady) (frame : Table Value) :
    (Action.inFrame frame action).Steady := by
  intro scopes
  rw [on_inFrame]
  exact (steady (scopes.push frame)).pop

end Action

open TemplateLang.Action

/-! ## Expressions -/

/-- Helpers that keep the scopes. -/
def Callables.Steady (helpers : Callables) : Prop :=
  ∀ name helper, helpers name = some helper → ∀ arguments, (helper arguments).Steady

namespace Meaning

/-- A meaning of which neither the value nor the place changes the scopes' shape. -/
structure Steady (meaning : Meaning) : Prop where
  value : meaning.value.Steady
  place : ∀ keys, (meaning.place keys).Steady

theorem steady_ofValue {value : Action EvalError Value} (steady : value.Steady) :
    (ofValue value).Steady :=
  ⟨steady, fun _ => steady.bind fun _ => steady_pure _⟩

theorem steady_callAt {helper : List Value → Action HelperFault Value} {arguments : List Value}
    (steady : (helper arguments).Steady) (span : Span) :
    (callAt span helper arguments).Steady :=
  steady.mapFailure _

theorem steady_ofName {helpers : Callables} (steady : helpers.Steady) (name : String)
    (span : Span) : (ofName helpers name span).Steady := by
  refine (steady_lookup name).bind fun found => ?_
  cases found with
  | some value => exact steady_pure value
  | none =>
    dsimp only
    split
    · rename_i helper isHelper
      exact steady_callAt (steady name helper isHelper []) span
    · exact steady_throw _

theorem steady_ofCall {helpers : Callables} (steady : helpers.Steady) (name : String)
    (calleeSpan span : Span) {arguments : Action EvalError (List Value)}
    (steadyArguments : arguments.Steady) :
    (ofCall helpers name calleeSpan span arguments).Steady := by
  unfold ofCall
  split
  · rename_i helper isHelper
    exact steadyArguments.bind fun values => steady_callAt (steady name helper isHelper values) span
  · refine (steady_lookup name).bind fun found => ?_
    cases found <;> exact steady_throw _

theorem steady_ofMember {owner : Meaning} (steady : owner.Steady) {key : Action EvalError Key}
    (steadyKey : key.Steady) (span : Span) : (ofMember owner key span).Steady where
  value := steady.value.bind fun _ => steadyKey.bind fun _ => steady_ofExcept _
  place _ := steadyKey.bind fun _ => steady.place _

theorem steady_updateAt (op : UpdateOp) (order : UpdatePlace) (span : Span) (target : Place) :
    (updateAt op order span target).Steady := by
  unfold updateAt
  dsimp only
  split
  · refine (steady_lookup _).bind fun found => ?_
    cases found with
    | none => exact (steady_throw _).bind fun _ => steady_pure _
    | some value =>
      refine (steady_ofExcept _).bind fun _ => (steady_declare _ _).bind fun _ => ?_
      exact (steady_pure _).bind fun _ => steady_pure _
  · exact (steady_ofExcept _).bind fun _ => (steady_pure _).bind fun _ => steady_pure _

end Meaning

namespace Expr

open Meaning

variable {helpers : Callables}

mutual

/-- The meaning of an expression is steady if the helpers are. -/
theorem steady_meaning (steady : helpers.Steady) : ∀ expr : Expr, (expr.meaning helpers).Steady
  | .null _ | .undefined _ | .boolean _ _ | .number _ _ | .text _ _ _ => by
    unfold meaning
    exact steady_ofValue (steady_pure _)
  | .identifier name note => by
    unfold meaning
    exact ⟨steady_ofName steady name note.span, fun _ => steady_pure _⟩
  | .array items _ => by
    unfold meaning
    exact steady_ofValue ((steady_values steady items).bind fun _ => steady_pure _)
  | .field object _ _ _ => by
    unfold meaning
    exact steady_ofMember (steady_meaning steady object) (steady_ofExcept _) _
  | .item object key _ => by
    unfold meaning
    refine steady_ofMember (steady_meaning steady object) ?_ _
    exact (steady_meaning steady key).value.bind fun _ => steady_ofExcept _
  | .call callee arguments _ _ => by
    unfold meaning
    refine steady_ofValue ?_
    split
    · exact steady_ofCall steady _ _ _ (steady_values steady arguments)
    · exact (steady_meaning steady callee).value.bind fun _ => steady_throw _
  | .unary _ argument _ => by
    unfold meaning
    exact steady_ofValue ((steady_meaning steady argument).value.bind fun _ => steady_ofExcept _)
  | .update op order argument note => by
    unfold meaning
    exact steady_ofValue
      (((steady_meaning steady argument).place []).bind (steady_updateAt op order note.span))
  | .binary _ left right _ => by
    unfold meaning
    refine steady_ofValue ((steady_meaning steady left).value.bind fun _ => ?_)
    exact (steady_meaning steady right).value.bind fun _ => steady_ofExcept _
  | .logical _ left right _ => by
    unfold meaning
    refine steady_ofValue ((steady_meaning steady left).value.bind fun _ => ?_)
    split
    · exact steady_pure _
    · exact (steady_meaning steady right).value
  | .conditional test consequent alternate _ => by
    unfold meaning
    refine steady_ofValue ((steady_meaning steady test).value.bind fun _ => ?_)
    split
    · exact (steady_meaning steady consequent).value
    · exact (steady_meaning steady alternate).value
  | .paren inner _ => by
    unfold meaning
    exact steady_meaning steady inner

/-- The values of expressions are found in steady actions. -/
theorem steady_values (steady : helpers.Steady) : ∀ exprs : List Expr, (values helpers exprs).Steady
  | [] => by
    unfold values
    exact steady_pure []
  | expr :: others => by
    unfold values
    refine (steady_meaning steady expr).value.bind fun _ => ?_
    exact (steady_values steady others).bind fun _ => steady_pure _

end

/-- Evaluating an expression keeps the scopes. -/
theorem steady_evaluate (steady : helpers.Steady) (expr : Expr) : (expr.evaluate helpers).Steady :=
  (steady_meaning steady expr).value

end Expr

/-! ## Helpers -/

namespace Helper

theorem steady_collect {ε : Type} {apply : Value → Action ε Value}
    (steady : ∀ item, (apply item).Steady) (items : List Value) :
    (collect apply items).Steady := by
  induction items with
  | nil => exact steady_pure []
  | cons item others ih =>
    exact (steady item).bind fun _ => ih.bind fun _ => steady_pure _

theorem steady_mapped {apply : List Value → Action HelperFault Value}
    (steady : ∀ arguments, (apply arguments).Steady) (arguments : List Value) :
    (mapped apply arguments).Steady := by
  unfold mapped
  split
  · exact (steady_collect (fun _ => steady _) _).bind fun _ => steady_pure _
  · exact steady arguments

theorem steady_define (arguments : List Value) : (define arguments).Steady := by
  unfold define
  split
  · split
    · exact steady_throw _
    · exact (steady_declare _ _).bind fun _ => steady_pure _
  · exact steady_throw _

theorem steady_evaluateText {callables : Callables} (steady : callables.Steady) (text : String) :
    (evaluateText callables text).Steady := by
  unfold evaluateText
  split
  · rename_i expr _
    exact (Expr.steady_evaluate steady expr).mapFailure _
  · exact steady_throw _

/-- A helper of the language keeps the scopes if the evaluation of texts does. -/
theorem steady_run (world : World) (directory : String)
    {evaluateText : String → Action HelperFault Value}
    (steady : ∀ text, (evaluateText text).Steady) (builtin : Builtin) (arguments : List Value) :
    (builtin.run world directory evaluateText arguments).Steady := by
  cases builtin with
  | eval => exact steady _
  | define => exact steady_define arguments
  | _ => exact Scopes.Keeps.refl

/-- The helper that stands for one of the language. -/
def ofBuiltin (builtin : Builtin) : Helper :=
  ⟨.builtin builtin, builtin.mapsArrays⟩

/-- What a host adds keeps the scopes. -/
def HostSteady (helper : Helper) : Prop :=
  match helper.action with
  | .builtin _ => True
  | .host run => ∀ arguments, (run arguments).Steady

theorem steady_call (world : World) (directory : String)
    {evaluateText : String → Action HelperFault Value}
    (steady : ∀ text, (evaluateText text).Steady) {helper : Helper} (host : helper.HostSteady)
    (arguments : List Value) :
    (helper.call world directory evaluateText arguments).Steady := by
  have steadyAction : ∀ arguments, (match helper.action with
      | .builtin builtin => builtin.run world directory evaluateText
      | .host run => run : List Value → Action HelperFault Value) arguments |>.Steady := by
    intro arguments
    unfold HostSteady at host
    split at host
    · rename_i builtin isBuiltin
      rw [isBuiltin]
      exact steady_run world directory steady builtin arguments
    · rename_i run isHost
      rw [isHost]
      exact host arguments
  unfold call
  dsimp only
  split
  · exact steady_mapped steadyAction arguments
  · exact steadyAction arguments

end Helper

namespace Helpers

/-- Helpers keep the scopes, however deep they evaluate expressions in each other, if
those of the host do. -/
theorem steady_callablesAt {helpers : Helpers}
    (host : ∀ name helper, Table.get? helpers name = some helper → helper.HostSteady)
    (world : World) (directory : String) (depth : Nat) :
    (helpers.callablesAt world directory depth).Steady := by
  induction depth with
  | zero =>
    intro name called isCalled arguments
    obtain ⟨helper, isHelper, rfl⟩ := Option.map_eq_some_iff.mp isCalled
    exact Helper.steady_call world directory (fun _ => steady_throw _)
      (host name helper isHelper) arguments
  | succ depth ih =>
    intro name called isCalled arguments
    obtain ⟨helper, isHelper, rfl⟩ := Option.map_eq_some_iff.mp isCalled
    exact Helper.steady_call world directory (Helper.steady_evaluateText ih)
      (host name helper isHelper) arguments

/-- The helpers of the language are found by their names. -/
theorem exists_of_get?_builtin {name : String} {helper : Helper}
    (isHelper : Table.get? builtin name = some helper) :
    ∃ builtin : Builtin, builtin.name = name ∧ helper = .ofBuiltin builtin := by
  unfold builtin at isHelper
  generalize Builtin.all = all at isHelper
  induction all with
  | nil => simp at isHelper
  | cons first others ih =>
    simp only [List.map_cons, Table.get?_cons] at isHelper
    split at isHelper
    · rename_i isName
      obtain rfl := Option.some.inj isHelper
      exact ⟨first, isName, rfl⟩
    · exact ih isHelper

/-- The helpers of the language have none of a host among them. -/
theorem hostSteady_builtin {name : String} {helper : Helper}
    (isHelper : Table.get? builtin name = some helper) : helper.HostSteady := by
  obtain ⟨builtin, -, rfl⟩ := exists_of_get?_builtin isHelper
  exact trivial

/-- The helpers of the language keep the scopes. -/
theorem steady_builtin (world : World) (directory : String) :
    (builtin.callables world directory).Steady :=
  steady_callablesAt (fun _ _ => hostSteady_builtin) world directory maxDepth

end Helpers

/-! ## Templates -/

section

variable {helpers : Callables}

theorem steady_enclosed {render : Output → Action EvalError (Output × Flow)}
    (steadyRender : ∀ output, (render output).Steady) (trimsStart trimsEnd : Bool) :
    (enclosed trimsStart trimsEnd render).Steady :=
  (steadyRender _).bind fun _ => steady_pure _

/-- A loop goes along with what all its rounds go along with. -/
theorem along_rounds {related : Scopes → Scopes → Prop} (refl : ∀ scopes, related scopes scopes)
    (trans : ∀ before middle after, related before middle → related middle after →
      related before after)
    {round : Value → Nat → Action EvalError Written}
    (each : ∀ item position, (round item position).Along related) (items : List Value)
    (position : Nat) : (rounds round items position).Along related := by
  induction items generalizing position with
  | nil => exact refl
  | cons item others ih =>
    refine Along.bind trans (each item position) fun written => ?_
    split
    · exact refl
    · exact Along.bind trans (ih (position + 1)) fun _ => refl

mutual

theorem steady_renderElements (steady : helpers.Steady) :
    ∀ (elements : List Element) (output : Output),
    (renderElements helpers elements output).Steady
  | [], output => by
    unfold renderElements
    exact steady_pure _
  | .raw _ _ :: others, output => by
    unfold renderElements
    exact steady_renderElements steady others _
  | .tag _ statement _ _ :: others, output => by
    unfold renderElements
    refine (steady_renderStatement steady statement).bind fun written => ?_
    dsimp only
    split
    · exact steady_renderElements steady others _
    · exact steady_pure _

theorem steady_renderStatement (steady : helpers.Steady) : ∀ statement : Statement,
    (renderStatement helpers statement).Steady
  | .empty | .breakLoop _ | .continueLoop _ => by
    unfold renderStatement
    exact steady_pure _
  | .expression expr => by
    unfold renderStatement
    exact (Expr.steady_evaluate steady expr).bind fun _ => steady_pure _
  | .assign _ expr _ => by
    unfold renderStatement
    refine (Expr.steady_evaluate steady expr).bind fun _ => ?_
    exact (steady_declare _ _).bind fun _ => steady_pure _
  | .branch branch => by
    unfold renderStatement
    exact steady_renderBranch steady branch
  | .loop _ _ iterable _ body _ _ => by
    unfold renderStatement
    refine (Expr.steady_evaluate steady iterable).bind fun _ => ?_
    refine (steady_ofExcept _).bind fun items => ?_
    refine Steady.bind ?_ fun _ => steady_pure _
    refine along_rounds Scopes.Keeps.refl (fun _ _ _ => Scopes.Keeps.trans)
      (fun item position => ?_) items 0
    exact (steady_enclosed (steady_renderElements steady body) _ _).inFrame _

theorem steady_renderBranch (steady : helpers.Steady) :
    ∀ branch : Branch, (renderBranch helpers branch).Steady
  | .mk test _ body alternate _ => by
    unfold renderBranch
    refine (Expr.steady_evaluate steady test).bind fun _ => ?_
    split
    · exact steady_enclosed (steady_renderElements steady body) _ _
    · exact steady_renderAlternate steady alternate

theorem steady_renderAlternate (steady : helpers.Steady) : ∀ alternate : Alternate,
    (renderAlternate helpers alternate).Steady
  | .done _ => by
    unfold renderAlternate
    exact steady_pure _
  | .otherwise _ _ body _ => by
    unfold renderAlternate
    exact steady_enclosed (steady_renderElements steady body) _ _
  | .chain _ next => by
    unfold renderAlternate
    exact steady_renderBranch steady next

end

end

/-! ## Loops -/

/-- The names that a loop binds in each of its rounds. -/
def loopNames (value : Identifier) (index : Option Identifier) : List String :=
  value.name :: (index.map Identifier.name).toList

/-- Scopes that bind a name as others do, in every frame. -/
def Scopes.SameBindings (name : String) (before after : Scopes) : Prop :=
  after.bindings name = before.bindings name

theorem Scopes.SameBindings.refl (name : String) (scopes : Scopes) :
    scopes.SameBindings name scopes :=
  rfl

/-- The frame of a round binds the variables of its loop. -/
theorem isSome_get?_loopFrame {value : Identifier} {index : Option Identifier} {name : String}
    (isVariable : name ∈ loopNames value index) (item : Value)
    (position : Nat) : (Table.get? (loopFrame value index item position) name).isSome = true := by
  unfold loopFrame
  cases index with
  | none =>
    obtain rfl : name = value.name := by simpa [loopNames] using isVariable
    simp
  | some second =>
    by_cases isIndex : second.name = name
    · simp [isIndex]
    · have isValue : name = value.name := by
        simpa [loopNames, Ne.symm isIndex] using isVariable
      rw [isValue] at isIndex ⊢
      simp [isIndex]

/-- A round leaves the outer bindings of a variable of its loop. -/
theorem sameBindings_inFrame {helpers : Callables} (steady : helpers.Steady)
    {frame : Table Value} {name : String} (bound : (Table.get? frame name).isSome = true)
    (body : List Element) (trimsStart trimsEnd : Bool) :
    (inFrame frame (enclosed trimsStart trimsEnd (renderElements helpers body))).Along
      (Scopes.SameBindings name) := by
  intro scopes
  rw [on_inFrame]
  have kept := steady_enclosed (steady_renderElements steady body) trimsStart trimsEnd
  exact (kept (scopes.push frame)).bindings_pop bound

/-- A loop leaves every binding of its variables as it was when what it runs over had been
evaluated. -/
theorem sameBindings_loop {helpers : Callables} (steady : helpers.Steady)
    {value : Identifier} {index : Option Identifier} {name : String}
    (isVariable : name ∈ loopNames value index)
    (iterable : Expr) (closing : Tag) (body : List Element) (endOpening : Tag) (span : Span)
    (scopes : Scopes) :
    ((iterable.evaluate helpers).on scopes).2.SameBindings name
      ((renderStatement helpers
        (.loop value index iterable closing body endOpening span)).on scopes).2 := by
  have trans : ∀ before middle after, Scopes.SameBindings name before middle →
      Scopes.SameBindings name middle after → Scopes.SameBindings name before after :=
    fun _ _ _ first second => Eq.trans second first
  unfold renderStatement
  rw [on_bind]
  generalize (iterable.evaluate helpers).on scopes = iterated
  rcases iterated with ⟨failure | iterated, middle⟩
  · exact rfl
  · dsimp only
    refine Along.bind trans ?_ (fun items => ?_) middle
    · exact Scopes.SameBindings.refl name
    refine Along.bind trans ?_ (fun _ => Scopes.SameBindings.refl name)
    refine along_rounds (Scopes.SameBindings.refl name) trans (fun item position => ?_) items 0
    exact sameBindings_inFrame steady (isSome_get?_loopFrame isVariable item position) body _ _

/-- With the helpers of the language, expressions and templates leave the frames that they
found, whether they succeed or fail, and a loop leaves what its variables are bound to
around it. -/
theorem scopes_balanced (world : World) (directory : String) (scopes : Scopes) :
    let helpers := Helpers.builtin.callables world directory
    (∀ expr : Expr, scopes.Keeps ((expr.evaluate helpers).on scopes).2) ∧
    (∀ (elements : List Element) (output : Output),
      scopes.Keeps ((renderElements helpers elements output).on scopes).2) ∧
    ∀ (value : Identifier) (index : Option Identifier) (iterable : Expr) (closing : Tag)
      (body : List Element) (endOpening : Tag) (span : Span),
      let iterated := ((iterable.evaluate helpers).on scopes).2
      let after := ((renderStatement helpers
        (.loop value index iterable closing body endOpening span)).on scopes).2
      ∀ name ∈ loopNames value index,
        after.bindings name = iterated.bindings name ∧ after.get? name = iterated.get? name := by
  have steady := Helpers.steady_builtin world directory
  refine ⟨fun expr => Expr.steady_evaluate steady expr scopes,
    fun elements output => steady_renderElements steady elements output scopes, ?_⟩
  intro value index iterable closing body endOpening span iterated after name isVariable
  have same : after.bindings name = iterated.bindings name :=
    sameBindings_loop steady isVariable iterable closing body endOpening span scopes
  exact ⟨same, Scopes.get?_congr same⟩

/-- A variable that a loop hides keeps its value around the loop, although the body writes
the name before it breaks the loop. -/
theorem scopes_balanced_break :
    let helpers := Helpers.builtin.callables ⟨⟨[], [], []⟩, ⟨0, 0, 0⟩⟩ ""
    let mark : Tag := ⟨.opening, "", false, [], default⟩
    let loop : Statement := .loop ⟨"x", default⟩ none (.array [.boolean true (.at default)]
      (.at default)) mark
      [.tag mark (.assign ⟨"x", default⟩ (.null (.at default)) default) mark default,
        .tag mark (.breakLoop default) mark default] mark default
    ((renderStatement helpers loop).on ⟨[("x", .text "outer")], []⟩).2.get? "x" =
      some (.text "outer") := by
  intro helpers mark loop
  have isVariable : "x" ∈ loopNames ⟨"x", default⟩ none := by decide
  obtain ⟨-, -, atLoop⟩ := scopes_balanced ⟨⟨[], [], []⟩, ⟨0, 0, 0⟩⟩ ""
    ⟨[("x", .text "outer")], []⟩
  exact (atLoop _ _ _ mark _ mark default "x" isVariable).2

end TemplateLang
