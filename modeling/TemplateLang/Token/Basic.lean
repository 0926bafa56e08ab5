import TemplateLang.Source.Lines
import TemplateLang.Text.Quoted
import TemplateLang.Number.Decimal
import TemplateLang.Syntax.Expr

/-!
# Tokens

The flat view of a template: raw text, the ends of tags, and inside tags
comments, literals, words and punctuators.  A listing gives each token one line
with its place.
-/

namespace TemplateLang

/-- Operators and punctuation inside a tag. -/
inductive Punctuator where
  | declare
  | equal
  | notEqual
  | lessEqual
  | greaterEqual
  | and
  | or
  | increment
  | decrement
  | dot
  | openBracket
  | closeBracket
  | openParen
  | closeParen
  | comma
  | pipe
  | question
  | colon
  | plus
  | minus
  | star
  | slash
  | percent
  | less
  | greater
  | bang
  | tilde
deriving DecidableEq, Repr

namespace Punctuator

/-- Every punctuator, the longer ones first: of two that start alike the longer
one is meant. -/
def all : List Punctuator :=
  [declare, equal, notEqual, lessEqual, greaterEqual, and, or, increment, decrement, dot,
    openBracket, closeBracket, openParen, closeParen, comma, pipe, question, colon, plus,
    minus, star, slash, percent, less, greater, bang, tilde]

def symbol : Punctuator → String
  | declare => ":="
  | equal => "=="
  | notEqual => "!="
  | lessEqual => "<="
  | greaterEqual => ">="
  | and => "&&"
  | or => "||"
  | increment => "++"
  | decrement => "--"
  | dot => "."
  | openBracket => "["
  | closeBracket => "]"
  | openParen => "("
  | closeParen => ")"
  | comma => ","
  | pipe => "|"
  | question => "?"
  | colon => ":"
  | plus => "+"
  | minus => "-"
  | star => "*"
  | slash => "/"
  | percent => "%"
  | less => "<"
  | greater => ">"
  | bang => "!"
  | tilde => "~"

/-- The class of a punctuator in a listing. -/
def className : Punctuator → String
  | dot => "DOT"
  | openBracket => "OPEN_BRACKET"
  | closeBracket => "CLOSE_BRACKET"
  | openParen => "OPEN_PAREN"
  | closeParen => "CLOSE_PAREN"
  | comma => "COMMA"
  | pipe => "PIPE"
  | declare => "DECLARE"
  | _ => "OPERATOR"

/-- The punctuator at the front of a text. -/
def at? (text : List Char) : Option Punctuator :=
  all.find? fun punctuator => punctuator.symbol.toList.isPrefixOf text

end Punctuator

/-- What a token is, with its data. -/
inductive Lexeme where
  | text (text : String)
  | opening (trims : Bool)
  | closing (trims : Bool)
  | comment (body : String)
  | null
  | undefined
  | boolean (value : Bool)
  | string (value : String) (quote : Quote)
  | number (value : Number)
  | word (name : String)
  | punctuator (punctuator : Punctuator)
  | done
deriving DecidableEq, Repr

namespace Lexeme

/-- The class of a token in a listing. -/
def className : Lexeme → String
  | text _ => "TEXT"
  | opening _ => "OPEN_TAG"
  | closing _ => "CLOSE_TAG"
  | comment _ => "COMMENT"
  | null => "NULL"
  | undefined => "UNDEFINED"
  | boolean _ => "BOOLEAN"
  | string _ _ => "STRING"
  | number _ => "NUMBER"
  | word _ => "IDENT"
  | punctuator p => p.className
  | done => "EOF"

/-- The data of a token in a listing, a blank before it. -/
def details : Lexeme → String
  | text content => " " ++ Quoted.inQuotes content
  | opening true | closing true => " trim"
  | comment body => " " ++ Quoted.inQuotes body
  | boolean value => if value then " true" else " false"
  | string value quote =>
    " " ++ quote.char.toString ++ Quoted.inside value ++ quote.char.toString
  | number value => " " ++ value.text
  | word name => " " ++ name
  | punctuator p => " " ++ p.symbol
  | _ => ""

/-- The token that a word is. -/
def ofWord (name : String) : Lexeme :=
  if name = "null" then null
  else if name = "undefined" then undefined
  else if name = "true" then boolean true
  else if name = "false" then boolean false
  else word name

end Lexeme

/-- A token and its span. -/
structure Token where
  lexeme : Lexeme
  span : Span
deriving DecidableEq, Repr

/-- The line of a token in a listing: where it starts, where it ends, and what it
is. -/
def Token.describe (index : LineIndex) (token : Token) : String :=
  (index.position token.span.start).describe ++ "-" ++
    (index.position token.span.stop).describe ++ " " ++
    token.lexeme.className ++ token.lexeme.details

end TemplateLang
