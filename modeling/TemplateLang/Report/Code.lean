/-!
# Error codes

Every diagnostic of the language carries one of these codes.  The first digit
tells the phase: zero for tokens and literals, one for the grammar, two for
evaluation.
-/

namespace TemplateLang

/-- What went wrong, as a class of errors. -/
inductive Code where
  | unterminatedString
  | unexpectedCharacter
  | invalidEscape
  | invalidUnicodeEscape
  | invalidCodepoint
  | emptyUnicodeEscape
  | unclosedTag
  | unopenedTag
  | unexpectedToken
  | missingToken
  | invalidNumber
  | reservedWord
  | invalidUpdateTarget
  | misplacedLoopControl
  | nestingTooDeep
  | undefinedIdentifier
  | undefinedHelper
  | notAFunction
  | typeMismatch
  | invalidOperand
  | invalidPropertyAccess
  | invalidPropertyKey
  | notIterable
  | helperFailure
  | invalidUpdateOperand
deriving DecidableEq, Repr, Inhabited

namespace Code

/-- The short form of a code. -/
def text : Code → String
  | unterminatedString => "E001"
  | unexpectedCharacter => "E002"
  | invalidEscape => "E003"
  | invalidUnicodeEscape => "E004"
  | invalidCodepoint => "E005"
  | emptyUnicodeEscape => "E006"
  | unclosedTag => "E007"
  | unopenedTag => "E008"
  | unexpectedToken => "E100"
  | missingToken => "E101"
  | invalidNumber => "E102"
  | reservedWord => "E103"
  | invalidUpdateTarget => "E104"
  | misplacedLoopControl => "E105"
  | nestingTooDeep => "E106"
  | undefinedIdentifier => "E200"
  | undefinedHelper => "E201"
  | notAFunction => "E202"
  | typeMismatch => "E203"
  | invalidOperand => "E204"
  | invalidPropertyAccess => "E205"
  | invalidPropertyKey => "E206"
  | notIterable => "E207"
  | helperFailure => "E208"
  | invalidUpdateOperand => "E209"

/-- What a code stands for, in a few words. -/
def description : Code → String
  | unterminatedString => "unterminated string literal"
  | unexpectedCharacter => "unexpected character"
  | invalidEscape => "invalid escape sequence"
  | invalidUnicodeEscape => "invalid unicode escape"
  | invalidCodepoint => "invalid unicode codepoint"
  | emptyUnicodeEscape => "empty unicode escape"
  | unclosedTag => "unclosed tag"
  | unopenedTag => "unopened tag"
  | unexpectedToken => "unexpected token"
  | missingToken => "missing token"
  | invalidNumber => "invalid numeric literal"
  | reservedWord => "reserved word"
  | invalidUpdateTarget => "invalid update target"
  | misplacedLoopControl => "misplaced loop control"
  | nestingTooDeep => "nesting too deep"
  | undefinedIdentifier => "undefined identifier"
  | undefinedHelper => "undefined helper"
  | notAFunction => "not a function"
  | typeMismatch => "data type mismatch"
  | invalidOperand => "invalid operand"
  | invalidPropertyAccess => "invalid property access"
  | invalidPropertyKey => "invalid property key"
  | notIterable => "not iterable"
  | helperFailure => "helper failure"
  | invalidUpdateOperand => "invalid update operand"

/-- Every code, in the order of the short forms. -/
def all : List Code :=
  [unterminatedString, unexpectedCharacter, invalidEscape, invalidUnicodeEscape,
    invalidCodepoint, emptyUnicodeEscape, unclosedTag, unopenedTag, unexpectedToken,
    missingToken, invalidNumber, reservedWord, invalidUpdateTarget, misplacedLoopControl,
    nestingTooDeep, undefinedIdentifier, undefinedHelper, notAFunction, typeMismatch,
    invalidOperand, invalidPropertyAccess, invalidPropertyKey, notIterable, helperFailure,
    invalidUpdateOperand]

/-- The code with a given short form. -/
def ofText? (text : String) : Option Code :=
  all.find? (·.text == text)

end Code

end TemplateLang
