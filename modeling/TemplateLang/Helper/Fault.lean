/-!
# Faults of helpers

Why a helper gives no value.  A template author reads the message; the cause tells
a wrong argument from all else.
-/

namespace TemplateLang

/-- What a helper expects as an argument. -/
inductive Expected where
  | number
  | array
  | arrayOrText
  | collection
  | lineOrPattern
  | name
deriving DecidableEq, Repr

/-- An expectation in words. -/
def Expected.words : Expected → String
  | number => "a number"
  | array => "an array"
  | arrayOrText => "an array or a string"
  | collection => "an array, an object or a string"
  | lineOrPattern => "a line number or a pattern"
  | name => "a name"

/-- A reason for a helper to fail.  `position` counts arguments from one, `found`
is the name of a type, and `detail` the message of the fault inside. -/
inductive HelperFault where
  | argument (helper : String) (position : Nat) (expected : Expected) (found : String)
  | invalidPattern (pattern : String)
  | endlessSequence
  | invalidDateFormat (format : String)
  | invalidExpression (text detail : String)
  | expressionFailed (detail : String)
  | expressionTooDeep
  | unreadableFile (path detail : String)
  | other (message : String)
deriving DecidableEq, Repr

namespace HelperFault

/-- Whether an argument is to blame for its type. -/
def isArgument : HelperFault → Bool
  | argument _ _ _ _ => true
  | _ => false

/-- What a fault says. -/
def message : HelperFault → String
  | argument helper position expected found =>
    "\"" ++ helper ++ "\" expects " ++ expected.words ++ " as argument " ++ toString position ++
      " (got \"" ++ found ++ "\")"
  | invalidPattern pattern => "Invalid pattern \"" ++ pattern ++ "\": (regex)"
  | endlessSequence => "\"seq\" needs finite bounds and a non-zero step"
  | invalidDateFormat format => "Invalid date format \"" ++ format ++ "\""
  | invalidExpression text detail => "Invalid expression \"" ++ text ++ "\": " ++ detail
  | expressionFailed detail => detail
  | expressionTooDeep => "Expressions evaluate each other too deeply"
  | unreadableFile path detail => "Failed to read \"" ++ path ++ "\": " ++ detail
  | other message => message

end HelperFault

end TemplateLang
