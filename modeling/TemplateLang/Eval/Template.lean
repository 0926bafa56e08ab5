import TemplateLang.Eval.Expression
import TemplateLang.Eval.Output
import TemplateLang.Syntax.Template

/-!
# Rendering templates

Elements are rendered in order, and write to one output.  `break` and `continue`
end the body they stand in with what it has written so far, and so every body
around it up to that of the innermost loop.
-/

namespace TemplateLang

/-- How a body ended. -/
inductive Flow where
  | normal
  | breaking
  | continuing
deriving DecidableEq, Repr

/-- What a body or a statement wrote, and how it ended. -/
structure Written where
  text : String
  flow : Flow
deriving DecidableEq, Repr

/-- Nothing written. -/
def Written.nothing : Written :=
  ⟨"", .normal⟩

/-- A body between two tags, which may trim its ends. -/
def enclosed (trimsStart trimsEnd : Bool)
    (render : Output → Action EvalError (Output × Flow)) : Action EvalError Written := do
  let (output, flow) ← render (Output.start trimsStart)
  pure ⟨output.settle trimsEnd, flow⟩

/-! ## Loops -/

/-- The variables of a round. -/
def loopFrame (value : Identifier) (index : Option Identifier) (item : Value)
    (position : Nat) : Table Value :=
  let frame := Table.insert [] value.name item
  match index with
  | some index => Table.insert frame index.name (Value.ofNat position)
  | none => frame

/-- The texts of the rounds of a loop, up to the one that breaks it. -/
def rounds (round : Value → Nat → Action EvalError Written) :
    List Value → Nat → Action EvalError String
  | [], _ => pure ""
  | item :: rest, position => do
    let written ← round item position
    if written.flow = .breaking then pure written.text
    else do
      let others ← rounds round rest (position + 1)
      pure (written.text ++ others)

/-- The items that a loop runs over. -/
def itemsOf (value : Value) : Except EvalFault (List Value) :=
  match value with
  | .array items => .ok items
  | value => .error (.notIterable value.typeName)

/-! ## Elements -/

/-- The tag end that ends the first body of a conditional block. -/
def Alternate.bodyEnd : Alternate → Tag
  | .done endOpening => endOpening
  | .otherwise elseOpening _ _ _ => elseOpening
  | .chain elseOpening _ => elseOpening

mutual

/-- Write elements in order, up to one that ends their body. -/
def renderElements (helpers : Callables) : List Element → Output →
    Action EvalError (Output × Flow)
  | [], output => pure (output, .normal)
  | .raw text _ :: rest, output => renderElements helpers rest (output.push text false false)
  | .tag opening statement closing _ :: rest, output => do
    let written ← renderStatement helpers statement
    let output := output.push written.text opening.trims closing.trims
    if written.flow = .normal then renderElements helpers rest output
    else pure (output, written.flow)

/-- What a statement writes. -/
def renderStatement (helpers : Callables) : Statement → Action EvalError Written
  | .empty => pure Written.nothing
  | .expression expr => do
    let value ← expr.evaluate helpers
    pure ⟨value.render, .normal⟩
  | .assign target expr _ => do
    let value ← expr.evaluate helpers
    Action.declare target.name value
    pure Written.nothing
  | .branch branch => renderBranch helpers branch
  | .loop value index iterable closing body endOpening _ => do
    let iterated ← iterable.evaluate helpers
    let items ← Meaning.checkedAt iterable.span (itemsOf iterated)
    let text ← rounds
      (fun item position =>
        Action.inFrame (loopFrame value index item position)
          (enclosed closing.trims endOpening.trims (renderElements helpers body)))
      items 0
    pure ⟨text, .normal⟩
  | .breakLoop _ => pure ⟨"", .breaking⟩
  | .continueLoop _ => pure ⟨"", .continuing⟩

/-- What a conditional block writes. -/
def renderBranch (helpers : Callables) : Branch → Action EvalError Written
  | .mk test closing body alternate _ => do
    let decided ← test.evaluate helpers
    if decided.isTruthy then
      enclosed closing.trims alternate.bodyEnd.trims (renderElements helpers body)
    else renderAlternate helpers alternate

/-- What a conditional block writes when its first condition does not hold. -/
def renderAlternate (helpers : Callables) : Alternate → Action EvalError Written
  | .done _ => pure Written.nothing
  | .otherwise _ elseClosing body endOpening =>
    enclosed elseClosing.trims endOpening.trims (renderElements helpers body)
  | .chain _ next => renderBranch helpers next

end

/-- What a template writes. -/
def Template.evaluate (helpers : Callables) (template : Template) : Action EvalError String := do
  let written ← enclosed false false (renderElements helpers template.elements)
  pure written.text

end TemplateLang
