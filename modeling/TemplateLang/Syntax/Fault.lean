import TemplateLang.Report.Diagnostic
import TemplateLang.Syntax.Template

/-!
# Faults of a source text

Why a source text is refused, as causes.  Each has a code, a message and perhaps
a line of help, and together with a span it makes a diagnostic.
-/

namespace TemplateLang

/-- The next character in words, or that there is none. -/
def describeNext : Option Char → String
  | some c => "\"" ++ c.toString ++ "\""
  | none => "end of input"

/-- A reason to refuse a source text.  `found` is the character at
which reading stopped. -/
inductive Fault where
  | unterminatedString (quote : Quote)
  | unexpectedCharacter (found : Option Char)
  | invalidEscape
  | malformedUnicodeEscape
  | invalidCodepoint
  | emptyUnicodeEscape
  | unclosedTag
  | unopenedTag
  | expressionExpected (found : Option Char)
  | closingExpected (closing : String) (found : Option Char)
  | unexpected (found : Option Char)
  | strayBlockWord (word : String)
  | missing (what : String)
  | missingExpressionAfter (symbol : String)
  | missingLoopVariable
  | missingIndexVariable
  | missingIn
  | missingIterable
  | missingColon
  | missingProperty
  | missingEnd (tags : Delimiters)
  | unclosedComment
  | invalidRadix (name : String)
  | invalidExponent
  | reservedWord (word : String)
  | invalidTarget (place : UpdatePlace)
  | outsideLoop (word : String)
  | tooDeep (limit : Nat)
deriving DecidableEq, Repr

namespace Fault

/-- The class of a fault. -/
def code : Fault → Code
  | unterminatedString _ => .unterminatedString
  | unexpectedCharacter _ => .unexpectedCharacter
  | invalidEscape => .invalidEscape
  | malformedUnicodeEscape => .invalidUnicodeEscape
  | invalidCodepoint => .invalidCodepoint
  | emptyUnicodeEscape => .emptyUnicodeEscape
  | unclosedTag => .unclosedTag
  | unopenedTag => .unopenedTag
  | expressionExpected _ | unexpected _ | strayBlockWord _ => .unexpectedToken
  | closingExpected _ _ | missing _ | missingExpressionAfter _ | missingLoopVariable
  | missingIndexVariable | missingIn | missingIterable | missingColon | missingProperty
  | missingEnd _ | unclosedComment => .missingToken
  | invalidRadix _ | invalidExponent => .invalidNumber
  | reservedWord _ => .reservedWord
  | invalidTarget _ => .invalidUpdateTarget
  | outsideLoop _ => .misplacedLoopControl
  | tooDeep _ => .nestingTooDeep

/-- The place of an update operator, as messages name it. -/
def placeName : UpdatePlace → String
  | .before => "prefix"
  | .after => "postfix"

/-- What a fault says. -/
def message : Fault → String
  | unterminatedString _ => "Unterminated string literal"
  | unexpectedCharacter found => "Unexpected character " ++ describeNext found
  | invalidEscape => "invalid escape sequence"
  | malformedUnicodeEscape => "invalid unicode escape"
  | invalidCodepoint => "invalid unicode codepoint"
  | emptyUnicodeEscape => "empty unicode escape"
  | unclosedTag => "Unclosed tag"
  | unopenedTag => "Unopened tag"
  | expressionExpected found => "Expression expected (" ++ describeNext found ++ " found)"
  | closingExpected closing found =>
    "\"" ++ closing ++ "\" expected (" ++ describeNext found ++ " found)"
  | unexpected found => "Unexpected " ++ describeNext found
  | strayBlockWord word => "Unexpected \"" ++ word ++ "\""
  | missing what => "Missing \"" ++ what ++ "\""
  | missingExpressionAfter symbol => "Missing expression after \"" ++ symbol ++ "\""
  | missingLoopVariable => "Missing loop variable after \"for\""
  | missingIndexVariable => "Missing index variable after \",\""
  | missingIn => "Missing \"in\" after loop variable"
  | missingIterable => "Missing iterable after \"in\""
  | missingColon => "Missing \":\" in conditional expression"
  | missingProperty => "Missing member property"
  | missingEnd tags => "Missing \"" ++ tags.opening ++ " end " ++ tags.closing ++ "\""
  | unclosedComment => "Missing \"*/\""
  | invalidRadix name => "Invalid " ++ name ++ " literal"
  | invalidExponent => "Invalid exponent part"
  | reservedWord word => "\"" ++ word ++ "\" is a reserved word"
  | invalidTarget place =>
    "Invalid left-hand side expression in " ++ placeName place ++ " operation"
  | outsideLoop word => "\"" ++ word ++ "\" can only be used inside a \"for\" loop"
  | tooDeep limit => "Nesting is deeper than " ++ toString limit ++ " levels"

/-- How a fault can be mended. -/
def help : Fault → Option String
  | unterminatedString quote => some ("add closing `" ++ quote.char.toString ++ "`")
  | invalidEscape =>
    some ("valid escapes: `\\n`, `\\r`, `\\t`, `\\b`, `\\f`, `\\v`, `\\\\`, `\\/`, `\\'`, " ++
      "`\\\"`, `\\0`, `\\u\x7b\x7d`")
  | malformedUnicodeEscape => some "use format `\\u\x7bXXXX\x7d` with 1-6 hex digits"
  | emptyUnicodeEscape => some "provide 1-6 hex digits: `\\u\x7b1F602\x7d`"
  | invalidCodepoint => some "valid range: `0x0000`-`0xD7FF` or `0xE000`-`0x10FFFF`"
  | unclosedTag => some "add the closing delimiter"
  | unopenedTag => some "escape the delimiter inside a string, or add the opening delimiter"
  | strayBlockWord _ => some "`else` and `end` must close an `if` or `for` block"
  | missingEnd _ => some "close the block with an `end` tag"
  | unclosedComment => some "close the comment with `*/`"
  | reservedWord _ => some "reserved words cannot be used as variable names"
  | invalidTarget _ => some "`++` and `--` can only update a variable or a member"
  | tooDeep _ => some "split the expression with variables or move blocks into helpers"
  | _ => none

/-- The diagnostic of a fault at a place. -/
def diagnostic (fault : Fault) (span : Span) : Diagnostic :=
  Diagnostic.ofCode fault.code fault.message span fault.help

end Fault

end TemplateLang
