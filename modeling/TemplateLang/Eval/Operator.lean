import TemplateLang.Eval.Fault
import TemplateLang.Value.Basic

/-!
# Operators on values

Equality takes all values.  The other operators between two operands take numbers,
and addition and the comparisons also texts; both operands must be of one type.
-/

namespace TemplateLang

/-- The value of an operator before an operand. -/
def UnaryOp.apply (op : UnaryOp) (operand : Value) : Except EvalFault Value :=
  match op, operand with
  | .negate, operand => .ok (.bool !operand.isTruthy)
  | .plus, .number n => .ok (.number n)
  | .minus, .number n => .ok (.number (-n))
  | .complement, .number n => .ok (.number (Number.ofInt (-n.toInt32 - 1)))
  | op, operand => .error (.invalidOperand op operand.typeName)

namespace BinaryOp

/-- An operator between numbers. -/
def onNumbers (op : BinaryOp) (a b : Number) : Value :=
  match op with
  | equal => .bool (a.equals b)
  | notEqual => .bool !(a.equals b)
  | less => .bool (a.less b)
  | greater => .bool (b.less a)
  | lessEqual => .bool (a.lessEqual b)
  | greaterEqual => .bool (b.lessEqual a)
  | add => .number (a + b)
  | subtract => .number (a - b)
  | multiply => .number (a * b)
  | divide => .number (a / b)
  | remainder => .number (a % b)

/-- An operator between texts, if there is one.  Texts are ordered by code point. -/
def onTexts? (op : BinaryOp) (a b : String) : Option Value :=
  match op with
  | add => some (.text (a ++ b))
  | less => some (.bool (decide (a < b)))
  | greater => some (.bool (decide (b < a)))
  | lessEqual => some (.bool !(decide (b < a)))
  | greaterEqual => some (.bool !(decide (a < b)))
  | _ => none

/-- The fault of operands that an operator does not take. -/
def refuse (op : BinaryOp) (left right : Value) : EvalFault :=
  if left.typeName = right.typeName then
    .invalidOperands op left.typeName right.typeName
  else .operandsDiffer op left.typeName right.typeName

/-- The value of an operator between two operands. -/
def apply (op : BinaryOp) (left right : Value) : Except EvalFault Value :=
  match op, left, right with
  | equal, left, right => .ok (.bool (left.equals right))
  | notEqual, left, right => .ok (.bool !(left.equals right))
  | op, .number a, .number b => .ok (op.onNumbers a b)
  | op, .text a, .text b =>
    match op.onTexts? a b with
    | some value => .ok value
    | none => .error (op.refuse (.text a) (.text b))
  | op, left, right => .error (op.refuse left right)

end BinaryOp

/-- Whether the left operand is the value of a logical operator, so that the right
one is not evaluated. -/
def LogicalOp.decidedBy (op : LogicalOp) (left : Value) : Bool :=
  match op with
  | or => left.isTruthy
  | and => !left.isTruthy

/-- A number changed by one. -/
def UpdateOp.change (op : UpdateOp) (n : Number) : Number :=
  match op with
  | increment => n + Number.ofInt 1
  | decrement => n + Number.ofInt (-1)

end TemplateLang
