import TemplateLang.Helper.Fault
import TemplateLang.Report.Diagnostic
import TemplateLang.Syntax.Expr

/-!
# Faults of evaluation

Why an expression or a statement has no value, as causes.  Types stand in them by
name and keys as texts.
-/

namespace TemplateLang

/-- A reason for an evaluation to fail. -/
inductive EvalFault where
  | undefinedName (name : String)
  | undefinedHelper (name : String)
  | notAFunction (text : String)
  | operandsDiffer (op : BinaryOp) (left right : String)
  | invalidOperands (op : BinaryOp) (left right : String)
  | invalidOperand (op : UnaryOp) (operand : String)
  | forbiddenKey (name : String)
  | noMembers (owner key : String)
  | invalidKey (found : String)
  | notIterable (found : String)
  | helperFailed (fault : HelperFault)
  | undefinedTarget (name : String)
  | invalidTarget (op : UpdateOp) (found : String)
  | unreachableTarget (owner key : String)
deriving DecidableEq, Repr

namespace EvalFault

/-- The class of a fault. -/
def code : EvalFault → Code
  | undefinedName _ => .undefinedIdentifier
  | undefinedHelper _ => .undefinedHelper
  | notAFunction _ => .notAFunction
  | operandsDiffer _ _ _ => .typeMismatch
  | invalidOperands _ _ _ | invalidOperand _ _ => .invalidOperand
  | forbiddenKey _ | noMembers _ _ => .invalidPropertyAccess
  | invalidKey _ => .invalidPropertyKey
  | notIterable _ => .notIterable
  | helperFailed _ => .helperFailure
  | undefinedTarget _ | invalidTarget _ _ | unreachableTarget _ _ => .invalidUpdateOperand

/-- The class that a fault's label names: that of the fault, but a target that
cannot be reached is labelled as the read that would reach it. -/
def labelClass : EvalFault → Code
  | unreachableTarget _ _ => .invalidPropertyAccess
  | fault => fault.code

/-- The message of a member that cannot be read. -/
def unreadable (owner key : String) : String :=
  "Cannot read properties of \"" ++ owner ++ "\" (reading \"" ++ key ++ "\")"

/-- What a fault says. -/
def message : EvalFault → String
  | undefinedName name => "\"" ++ name ++ "\" identifier does not exist"
  | undefinedHelper name => "\"" ++ name ++ "\" helper function is not defined"
  | notAFunction text => "\"" ++ text ++ "\" is not a function"
  | operandsDiffer op left right =>
    "Operator \"" ++ op.symbol ++ "\" requires operands of the same data type (left: \"" ++
      left ++ "\", right: \"" ++ right ++ "\")"
  | invalidOperands op left right =>
    "Operator \"" ++ op.symbol ++ "\" cannot be applied to \"" ++ left ++ "\" and \"" ++
      right ++ "\""
  | invalidOperand op operand =>
    "Operator \"" ++ op.symbol ++ "\" cannot be applied to \"" ++ operand ++ "\""
  | forbiddenKey name => "Invalid property access: \"" ++ name ++ "\""
  | noMembers owner key | unreachableTarget owner key => unreadable owner key
  | invalidKey found => "Property key must be string or numeric (got \"" ++ found ++ "\")"
  | notIterable found => "\"" ++ found ++ "\" is not iterable"
  | helperFailed fault => fault.message
  | undefinedTarget name => "\"" ++ name ++ "\" is not defined"
  | invalidTarget op found =>
    "Operator \"" ++ op.symbol ++ "\" cannot be applied to \"" ++ found ++ "\""

end EvalFault

/-- A fault at a place of the source. -/
structure EvalError where
  fault : EvalFault
  span : Span
deriving DecidableEq, Repr

/-- The diagnostic of a failed evaluation. -/
def EvalError.diagnostic (error : EvalError) : Diagnostic where
  severity := .error
  code := some error.fault.code
  message := error.fault.message
  labels := [⟨error.span, error.fault.labelClass.description, true⟩]
  help := none

end TemplateLang
