import TemplateLang.Engine.Context
import TemplateLang.Proofs.Places.Nested

/-!
# Failed evaluations point into the source

An expression fails at its own span, at the span of something that stands in it, or at that
of a key after a dot; what goes wrong inside of a helper is told at the call.  So whatever
the variables and the helpers are, a template whose expressions are placed on a source
fails with a span on that source.
-/

namespace TemplateLang

namespace Action

variable {α β : Type} {source : List Char} {post : α → Prop} {post' : β → Prop}

/-- An action that gives what is described, or fails with a span on a source. -/
def FailsOn (source : List Char) (post : α → Prop) (action : Action EvalError α) : Prop :=
  ∀ scopes, match (action.on scopes).1 with
    | .ok value => post value
    | .error error => error.span.On source

theorem failsOn_pure {value : α} (holds : post value) :
    FailsOn source post (pure value : Action EvalError α) :=
  fun _ => holds

theorem FailsOn.bind {action : Action EvalError α} {next : α → Action EvalError β}
    (first : action.FailsOn source post)
    (goesOn : ∀ value, post value → (next value).FailsOn source post') :
    (action >>= next).FailsOn source post' := by
  intro scopes
  have begun := first scopes
  rw [on_bind]
  generalize action.on scopes = ran at begun ⊢
  rcases ran with ⟨error | value, after⟩
  · exact begun
  · exact goesOn value begun after

theorem FailsOn.inFrame {action : Action EvalError α} (fails : action.FailsOn source post)
    (frame : Table Value) : (Action.inFrame frame action).FailsOn source post :=
  fun scopes => fails (scopes.push frame)

theorem failsOn_lookup (name : String) :
    FailsOn source (fun _ => True) (lookup name : Action EvalError (Option Value)) :=
  fun _ => trivial

theorem failsOn_declare (name : String) (value : Value) :
    FailsOn source (fun _ => True) (declare name value : Action EvalError Unit) :=
  fun _ => trivial

end Action

open TemplateLang.Action

variable {source : List Char} {helpers : Callables}

/-- An action of any value that fails only on a source. -/
def Action.Fails (source : List Char) {α : Type} (action : Action EvalError α) : Prop :=
  action.FailsOn source fun _ => True

namespace Meaning

theorem fails_failAt {α : Type} {post : α → Prop} {span : Span} (on : span.On source)
    (fault : EvalFault) : (failAt span fault : Action EvalError α).FailsOn source post :=
  fun _ => on

theorem fails_checkedAt {α : Type} {span : Span} (on : span.On source)
    (result : Except EvalFault α) : (checkedAt span result).Fails source := by
  intro scopes
  cases result with
  | ok value => exact trivial
  | error fault => exact on

theorem fails_callAt {span : Span} (on : span.On source)
    (helper : List Value → Action HelperFault Value) (arguments : List Value) :
    (callAt span helper arguments).Fails source := by
  intro scopes
  simp only [callAt, Action.mapFailure, on_ofFunction]
  rcases (helper arguments).on scopes with ⟨fault | value, after⟩
  · exact on
  · exact trivial

theorem fails_ofName (name : String) {span : Span} (on : span.On source) :
    (ofName helpers name span).Fails source := by
  apply (failsOn_lookup name).bind
  intro found _
  cases found with
  | some value => exact failsOn_pure trivial
  | none =>
    dsimp only
    split
    · exact fails_callAt on _ _
    · exact fails_failAt on _

theorem fails_ofCall (name : String) {calleeSpan span : Span} (onCallee : calleeSpan.On source)
    (on : span.On source) {arguments : Action EvalError (List Value)}
    (fails : arguments.Fails source) :
    (ofCall helpers name calleeSpan span arguments).Fails source := by
  unfold ofCall
  split
  · exact fails.bind fun _ _ => fails_callAt on _ _
  · apply (failsOn_lookup name).bind
    intro found _
    cases found <;> exact fails_failAt onCallee _

/-- A place whose variable, if it has one, is named on a source. -/
def PlaceOn (source : List Char) (place : Place) : Prop :=
  match place.root with
  | .variable _ span => span.On source
  | .unnamed _ => True

/-- A meaning of which neither the value nor the place fails off a source. -/
structure Fails (source : List Char) (meaning : Meaning) : Prop where
  value : meaning.value.Fails source
  place : ∀ keys, (meaning.place keys).FailsOn source (PlaceOn source)

theorem fails_ofValue {value : Action EvalError Value} (fails : value.Fails source) :
    (ofValue value).Fails source :=
  ⟨fails, fun _ => fails.bind fun _ _ => failsOn_pure trivial⟩

theorem fails_ofMember {owner : Meaning} (fails : owner.Fails source)
    {key : Action EvalError Key} (failsKey : key.Fails source) {span : Span}
    (on : span.On source) : (ofMember owner key span).Fails source where
  value := fails.value.bind fun _ _ => failsKey.bind fun _ _ => fails_checkedAt on _
  place _ := failsKey.bind fun _ _ => fails.place _

theorem fails_updateAt (op : UpdateOp) (order : UpdatePlace) {span : Span} (on : span.On source)
    {target : Place} (named : PlaceOn source target) :
    (updateAt op order span target).Fails source := by
  unfold updateAt
  dsimp only
  unfold PlaceOn at named
  split
  · rename_i name nameSpan isVariable
    rw [isVariable] at named
    apply (failsOn_lookup name).bind
    intro found _
    cases found with
    | none =>
      have fails : (failAt nameSpan (.undefinedTarget name) : Action EvalError Number).Fails
          source := fails_failAt named _
      exact fails.bind fun _ _ => failsOn_pure trivial
    | some value =>
      apply (fails_checkedAt on _).bind
      intro changed _
      apply (failsOn_declare _ _).bind
      intro _ _
      exact failsOn_pure trivial
  · apply (fails_checkedAt on _).bind
    intro changed _
    exact failsOn_pure trivial

end Meaning

namespace Expr

open Meaning

mutual

/-- A placed expression fails only on its source. -/
theorem fails_meaning : ∀ expr : Expr, expr.Everywhere (Placed source) →
    (expr.meaning helpers).Fails source
  | .null _, _ | .undefined _, _ | .boolean _ _, _ | .number _ _, _ | .text _ _ _, _ => by
    unfold meaning
    exact fails_ofValue (failsOn_pure trivial)
  | .identifier name note, placed => by
    unfold meaning
    have on : note.span.On source := placed.here.on
    exact ⟨fails_ofName name on, fun _ => failsOn_pure on⟩
  | .array items _, placed => by
    unfold meaning
    have fails := fails_values items fun item isItem => placed.child isItem
    exact fails_ofValue (fails.bind fun _ _ => failsOn_pure trivial)
  | .field object key keySpan note, placed => by
    unfold meaning
    have keyOn : keySpan.On source := (placed.here.key keySpan rfl).1
    have fails := fails_meaning object (placed.child (List.mem_singleton.mpr rfl))
    exact fails_ofMember fails (fails_checkedAt keyOn _) placed.here.on
  | .item object key note, placed => by
    unfold meaning
    have placedKey : key.Everywhere (Placed source) := placed.child (by simp [children])
    have fails := fails_meaning object (placed.child (by simp [children]))
    apply fails_ofMember fails _ placed.here.on
    exact (fails_meaning key placedKey).value.bind fun _ _ => fails_checkedAt placedKey.here.on _
  | .call callee arguments _ note, placed => by
    unfold meaning
    have placedCallee : callee.Everywhere (Placed source) :=
      placed.child (List.mem_cons_self ..)
    have fails := fails_values arguments fun argument isArgument =>
      placed.child (List.mem_cons_of_mem _ isArgument)
    apply fails_ofValue
    split
    · exact fails_ofCall _ placedCallee.here.on placed.here.on fails
    · exact (fails_meaning callee placedCallee).value.bind fun _ _ =>
        fails_failAt placedCallee.here.on _
  | .unary _ argument _, placed => by
    unfold meaning
    have fails := fails_meaning argument (placed.child (by simp [children]))
    exact fails_ofValue (fails.value.bind fun _ _ => fails_checkedAt placed.here.on _)
  | .update op order argument note, placed => by
    unfold meaning
    have fails := fails_meaning argument (placed.child (by simp [children]))
    exact fails_ofValue ((fails.place []).bind fun _ named =>
      fails_updateAt op order placed.here.on named)
  | .binary _ left right _, placed => by
    unfold meaning
    have failsLeft := fails_meaning left (placed.child (by simp [children]))
    have failsRight := fails_meaning right (placed.child (by simp [children]))
    exact fails_ofValue (failsLeft.value.bind fun _ _ => failsRight.value.bind fun _ _ =>
      fails_checkedAt placed.here.on _)
  | .logical _ left right _, placed => by
    unfold meaning
    have failsLeft := fails_meaning left (placed.child (by simp [children]))
    have failsRight := fails_meaning right (placed.child (by simp [children]))
    apply fails_ofValue
    apply failsLeft.value.bind
    intro value _
    split
    · exact failsOn_pure trivial
    · exact failsRight.value
  | .conditional test consequent alternate _, placed => by
    unfold meaning
    have failsTest := fails_meaning test (placed.child (by simp [children]))
    have failsFirst := fails_meaning consequent (placed.child (by simp [children]))
    have failsSecond := fails_meaning alternate (placed.child (by simp [children]))
    apply fails_ofValue
    apply failsTest.value.bind
    intro value _
    split
    · exact failsFirst.value
    · exact failsSecond.value
  | .paren inner _, placed => by
    unfold meaning
    exact fails_meaning inner (placed.child (List.mem_singleton.mpr rfl))

theorem fails_values : ∀ exprs : List Expr, (∀ expr ∈ exprs, expr.Everywhere (Placed source)) →
    (values helpers exprs).Fails source
  | [], _ => by
    unfold values
    exact failsOn_pure trivial
  | first :: others, placed => by
    unfold values
    apply (fails_meaning first (placed first (List.mem_cons_self ..))).value.bind
    intro value _
    apply (fails_values others fun expr isOther =>
      placed expr (List.mem_cons_of_mem _ isOther)).bind
    exact fun _ _ => failsOn_pure trivial

end

theorem fails_evaluate {expr : Expr} (placed : expr.Everywhere (Placed source)) :
    (expr.evaluate helpers).Fails source :=
  (fails_meaning expr placed).value

end Expr

/-! ## Templates -/

theorem fails_enclosed {render : Output → Action EvalError (Output × Flow)}
    (fails : ∀ output, (render output).Fails source) (trimsStart trimsEnd : Bool) :
    (enclosed trimsStart trimsEnd render).Fails source :=
  (fails _).bind fun _ _ => failsOn_pure trivial

/-- A loop fails only on a source if its rounds do. -/
theorem fails_rounds {round : Value → Nat → Action EvalError Written}
    (fails : ∀ item position, (round item position).Fails source)
    (items : List Value) (position : Nat) : (rounds round items position).Fails source := by
  induction items generalizing position with
  | nil => exact failsOn_pure trivial
  | cons item others ih =>
    apply (fails item position).bind
    intro written _
    split
    · exact failsOn_pure trivial
    · exact (ih (position + 1)).bind fun _ _ => failsOn_pure trivial

/-- All expressions of a list are placed on a source, with all that stands in them. -/
def HeadsPlaced (source : List Char) (heads : List Expr) : Prop :=
  ∀ expr ∈ heads, expr.Everywhere (Expr.Placed source)

/-- The heads of all tags among elements are placed on a source. -/
def ElementsPlaced (source : List Char) (elements : List Element) : Prop :=
  ∀ statement span, HasTag elements statement span → HeadsPlaced source statement.heads

theorem ElementsPlaced.raw {text : String} {span : Span} {others : List Element}
    (placed : ElementsPlaced source (.raw text span :: others)) : ElementsPlaced source others := by
  intro statement place has
  cases has with
  | here among => exact placed _ _ (.here (List.mem_cons_of_mem _ among))
  | inside among isBody deeper =>
    exact placed _ _ (.inside (List.mem_cons_of_mem _ among) isBody deeper)

/-- A tag and what comes after it. -/
theorem ElementsPlaced.tag {opening closing : Tag} {statement : Statement} {span : Span}
    {others : List Element}
    (placed : ElementsPlaced source (.tag opening statement closing span :: others)) :
    HeadsPlaced source statement.heads ∧
      (∀ body ∈ statement.bodies, ElementsPlaced source body) ∧ ElementsPlaced source others := by
  refine ⟨?_, ?_, ?_⟩
  · exact placed _ _ (.here (List.mem_cons_self ..))
  · intro body isBody inner place has
    exact placed _ _ (.inside (List.mem_cons_self ..) isBody has)
  · intro inner place has
    cases has with
    | here among => exact placed _ _ (.here (List.mem_cons_of_mem _ among))
    | inside among isBody deeper =>
      exact placed _ _ (.inside (List.mem_cons_of_mem _ among) isBody deeper)

mutual

theorem fails_renderElements : ∀ (elements : List Element) (output : Output),
    ElementsPlaced source elements → (renderElements helpers elements output).Fails source
  | [], _, _ => by
    unfold renderElements
    exact failsOn_pure trivial
  | .raw _ _ :: others, output, placed => by
    unfold renderElements
    exact fails_renderElements others _ placed.raw
  | .tag _ statement _ _ :: others, output, placed => by
    rcases placed.tag with ⟨heads, bodies, later⟩
    unfold renderElements
    apply (fails_renderStatement statement heads bodies).bind
    intro written _
    dsimp only
    split
    · exact fails_renderElements others _ later
    · exact failsOn_pure trivial

theorem fails_renderStatement : ∀ statement : Statement, HeadsPlaced source statement.heads →
    (∀ body ∈ statement.bodies, ElementsPlaced source body) →
      (renderStatement helpers statement).Fails source
  | .empty, _, _ | .breakLoop _, _, _ | .continueLoop _, _, _ => by
    unfold renderStatement
    exact failsOn_pure trivial
  | .expression expr, heads, _ => by
    unfold renderStatement
    apply (Expr.fails_evaluate (heads expr (List.mem_singleton.mpr rfl))).bind
    exact fun _ _ => failsOn_pure trivial
  | .assign _ expr _, heads, _ => by
    unfold renderStatement
    apply (Expr.fails_evaluate (heads expr (List.mem_singleton.mpr rfl))).bind
    intro value _
    exact (failsOn_declare _ _).bind fun _ _ => failsOn_pure trivial
  | .branch branch, heads, bodies => by
    unfold renderStatement
    exact fails_renderBranch branch heads bodies
  | .loop value index iterable closing body endOpening _, heads, bodies => by
    unfold renderStatement
    have placed := heads iterable (List.mem_singleton.mpr rfl)
    apply (Expr.fails_evaluate placed).bind
    intro iterated _
    apply (Meaning.fails_checkedAt placed.here.on _).bind
    intro items _
    apply (fails_rounds (fun item position => ?_) items 0).bind
    · exact fun _ _ => failsOn_pure trivial
    · have failsBody := fails_renderElements body
      exact (fails_enclosed (fun output =>
        failsBody output (bodies body (List.mem_singleton.mpr rfl))) _ _).inFrame _

theorem fails_renderBranch : ∀ branch : Branch, HeadsPlaced source branch.heads →
    (∀ body ∈ branch.bodies, ElementsPlaced source body) →
      (renderBranch helpers branch).Fails source
  | .mk test closing body alternate _, heads, bodies => by
    unfold renderBranch
    rcases List.forall_mem_cons.mp heads with ⟨placed, headsLater⟩
    rcases List.forall_mem_cons.mp bodies with ⟨placedBody, bodiesLater⟩
    apply (Expr.fails_evaluate placed).bind
    intro decided _
    split
    · exact fails_enclosed (fun output => fails_renderElements body output placedBody) _ _
    · exact fails_renderAlternate alternate headsLater bodiesLater

theorem fails_renderAlternate : ∀ alternate : Alternate, HeadsPlaced source alternate.heads →
    (∀ body ∈ alternate.bodies, ElementsPlaced source body) →
      (renderAlternate helpers alternate).Fails source
  | .done _, _, _ => by
    unfold renderAlternate
    exact failsOn_pure trivial
  | .otherwise _ _ body _, _, bodies => by
    unfold renderAlternate
    exact fails_enclosed (fun output =>
      fails_renderElements body output (bodies body (List.mem_singleton.mpr rfl))) _ _
  | .chain _ next, heads, bodies => by
    unfold renderAlternate
    exact fails_renderBranch next heads bodies

end

/-- A template that was read from a source fails on that source, in any context. -/
theorem on_of_render {tags : Delimiters} {template : Template}
    (read : parse tags source = .ok template) {context : Context} {world : World}
    {error : EvalError} (failed : (context.render world template).1 = .error error) :
    error.span.On source := by
  have placed : ElementsPlaced source template.elements :=
    fun _ _ has expr isHead => ((sits_of_parse read has).2 expr isHead).placed
  have fails : (template.evaluate (context.callables world)).Fails source :=
    (fails_enclosed (fun output => fails_renderElements _ output placed) _ _).bind
      fun _ _ => failsOn_pure trivial
  have ended := fails context.scopes
  have result : ((template.evaluate (context.callables world)).on context.scopes).1 =
      .error error := failed
  rw [result] at ended
  exact ended

end TemplateLang
