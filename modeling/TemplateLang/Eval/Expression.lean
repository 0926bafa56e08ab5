import TemplateLang.Eval.Action
import TemplateLang.Eval.Operator
import TemplateLang.Value.Path

/-!
# The meaning of expressions

An expression means a value and, as the operand of `++` and `--`, a place: a
variable, or a value without a name, and the keys that lead from there to the
part that changes.  Both are actions, and both are given by one recursion on the
expression, since the keys of a place are values of expressions.

Which helpers there are, and what a call of one does, is a parameter.
-/

namespace TemplateLang

/-- Helpers by name, as actions on the values of their arguments. -/
abbrev Callables : Type :=
  String → Option (List Value → Action HelperFault Value)

/-- Where the keys of a place start. -/
inductive Root where
  | variable (name : String) (span : Span)
  | unnamed (value : Value)

/-- What an update changes. -/
structure Place where
  root : Root
  keys : List Key

/-- The value of an expression, and its place when `keys` select a part of it. -/
structure Meaning where
  value : Action EvalError Value
  place : List Key → Action EvalError Place

namespace Meaning

/-- Fail at a span. -/
def failAt {α : Type} (span : Span) (fault : EvalFault) : Action EvalError α :=
  throw ⟨fault, span⟩

/-- A result whose fault is at a span. -/
def checkedAt {α : Type} (span : Span) (result : Except EvalFault α) : Action EvalError α :=
  Action.ofExcept (result.mapError (⟨·, span⟩))

/-- The meaning of an expression that names no place of its own. -/
def ofValue (value : Action EvalError Value) : Meaning where
  value := value
  place keys := do
    let value ← value
    pure ⟨.unnamed value, keys⟩

/-! ## Names and calls -/

/-- Call a helper from a place. -/
def callAt (span : Span) (helper : List Value → Action HelperFault Value)
    (arguments : List Value) : Action EvalError Value :=
  (helper arguments).mapFailure fun fault => ⟨.helperFailed fault, span⟩

/-- The value of a name: that of the variable, or else of the helper without
arguments. -/
def ofName (helpers : Callables) (name : String) (span : Span) : Action EvalError Value := do
  match ← Action.lookup name with
  | some value => pure value
  | none =>
    match helpers name with
    | some helper => callAt span helper []
    | none => failAt span (.undefinedName name)

/-- The fault of calling a value. -/
def notCallable (value : Value) : EvalFault :=
  .notAFunction value.display

/-- The call of a name.  Only helpers can be called. -/
def ofCall (helpers : Callables) (name : String) (calleeSpan span : Span)
    (arguments : Action EvalError (List Value)) : Action EvalError Value := do
  match helpers name with
  | some helper => do
    let arguments ← arguments
    callAt span helper arguments
  | none =>
    match ← Action.lookup name with
    | some value => failAt calleeSpan (notCallable value)
    | none => failAt calleeSpan (.undefinedHelper name)

/-! ## Members -/

/-- A key that may be read. -/
def allowKey (key : Key) : Except EvalFault Key :=
  match key with
  | .name name => if Key.isForbidden name then .error (.forbiddenKey name) else .ok key
  | .index _ => .ok key

/-- The key after a dot. -/
def ofFieldKey : FieldKey → Key
  | .name name => .name name
  | .position index => .index index

/-- The key that a value is. -/
def keyOf (value : Value) : Except EvalFault Key :=
  match value with
  | .text name => allowKey (.name name)
  | .number index => .ok (.index index)
  | value => .error (.invalidKey value.typeName)

/-- Read a member of a value. -/
def readAt (span : Span) (owner : Value) (key : Key) : Action EvalError Value :=
  checkedAt span (match owner.readMember? key with
    | some value => .ok value
    | none => .error (.noMembers owner.typeName key.text))

/-- The meaning of a member of an expression, of which `key` gives the key. -/
def ofMember (owner : Meaning) (key : Action EvalError Key) (span : Span) : Meaning where
  value := do
    let target ← owner.value
    let key ← key
    readAt span target key
  place keys := do
    let key ← key
    owner.place (key :: keys)

/-! ## Updates -/

/-- The fault of a slot that cannot be changed. -/
def slotFault (op : UpdateOp) : Value.SlotFault → EvalFault
  | .notANumber found => .invalidTarget op found
  | .missing => .invalidTarget op Value.undefined.typeName
  | .unreadable owner key => .unreachableTarget owner key.text

/-- Change the slot of a place by one and give the number before or after.  A
variable keeps the change. -/
def updateAt (op : UpdateOp) (order : UpdatePlace) (span : Span) (target : Place) :
    Action EvalError Value := do
  let changed (value : Value) : Action EvalError (Number × Value) :=
    checkedAt span ((value.changeSlot op.change target.keys).mapError (slotFault op))
  let old ← match target.root with
    | .variable name nameSpan => do
      match ← Action.lookup name with
      | none => failAt nameSpan (.undefinedTarget name)
      | some value => do
        let (old, value) ← changed value
        Action.declare name value
        pure old
    | .unnamed value => do
      let (old, _) ← changed value
      pure old
  pure (.number (match order with
    | .before => op.change old
    | .after => old))

end Meaning

namespace Expr

open Meaning

mutual

/-- What an expression means. -/
def meaning (helpers : Callables) : Expr → Meaning
  | null _ => ofValue (pure .null)
  | undefined _ => ofValue (pure .undefined)
  | boolean value _ => ofValue (pure (.bool value))
  | number value _ => ofValue (pure (.number value))
  | text value _ _ => ofValue (pure (.text value))
  | identifier name note =>
    { value := ofName helpers name note.span
      place := fun keys => pure ⟨.variable name note.span, keys⟩ }
  | array items _ => ofValue do
    let values ← values helpers items
    pure (.array values)
  | field object key keySpan note =>
    ofMember (object.meaning helpers) (checkedAt keySpan (allowKey (ofFieldKey key))) note.span
  | item object key note =>
    ofMember (object.meaning helpers)
      (do
        let value ← (key.meaning helpers).value
        checkedAt key.span (keyOf value))
      note.span
  | call callee arguments _ note => ofValue (
    match callee with
    | identifier name calleeNote =>
      ofCall helpers name calleeNote.span note.span (values helpers arguments)
    | callee => do
      let value ← (callee.meaning helpers).value
      failAt callee.span (notCallable value))
  | unary op argument note => ofValue do
    let operand ← (argument.meaning helpers).value
    checkedAt note.span (op.apply operand)
  | update op order argument note => ofValue do
    let target ← (argument.meaning helpers).place []
    updateAt op order note.span target
  | binary op left right note => ofValue do
    let left ← (left.meaning helpers).value
    let right ← (right.meaning helpers).value
    checkedAt note.span (op.apply left right)
  | logical op left right _ => ofValue do
    let left ← (left.meaning helpers).value
    if op.decidedBy left then pure left else (right.meaning helpers).value
  | conditional test consequent alternate _ => ofValue do
    let test ← (test.meaning helpers).value
    if test.isTruthy then (consequent.meaning helpers).value
    else (alternate.meaning helpers).value
  | paren inner _ => inner.meaning helpers

/-- The values of expressions, in order. -/
def values (helpers : Callables) : List Expr → Action EvalError (List Value)
  | [] => pure []
  | expr :: rest => do
    let value ← (expr.meaning helpers).value
    let values ← values helpers rest
    pure (value :: values)

end

/-- The value of an expression. -/
def evaluate (helpers : Callables) (expr : Expr) : Action EvalError Value :=
  (expr.meaning helpers).value

end Expr

end TemplateLang
