import TemplateLang.Number.Decimal
import TemplateLang.Syntax.Expr
import TemplateLang.Syntax.Word
import TemplateLang.Text.Trim

/-!
# The canonical text of expressions

Printing an expression gives a text that reads back as the same expression, with
one blank around operators and after commas.  A call is written as a command,
`f a b`, where that reads back as the same call, and with parentheses elsewhere.
A key that could stand after a dot does.
-/

namespace TemplateLang

namespace Print

/-! ## Comments and literals -/

/-- A comment.  One on a single line has one blank inside each mark. -/
def comment (comment : Comment) : String :=
  if comment.isMultiline then "/*" ++ comment.body ++ "*/"
  else
    match Text.dropOuter comment.body.toList with
    | [] => "/* */"
    | body => "/* " ++ String.ofList body ++ " */"

/-- An expression's text between the comments of its note. -/
def withComments (note : Note) (text : String) : String :=
  " ".intercalate (note.leading.map comment ++ text :: note.trailing.map comment)

/-- A numeric literal.  One that overflowed is written so that it does again. -/
def number : Number → String
  | .infinite isNegative => Number.minusSign isNegative ++ "1e999"
  | x => x.text

/-- Characters that have no picture: the two blocks of control codes. -/
def isControl (c : Char) : Bool :=
  c.toNat < 32 || (127 ≤ c.toNat && c.toNat < 160)

/-- A character inside a string literal. -/
def escape (quote : Char) (c : Char) : List Char :=
  if c = '\\' then ['\\', '\\']
  else if c = '\n' then ['\\', 'n']
  else if c = '\r' then ['\\', 'r']
  else if c = '\t' then ['\\', 't']
  else if c = '\x00' then ['\\', '0']
  else if c = quote then ['\\', c]
  else if isControl c then ['\\', 'u', '\x7b'] ++ Nat.toDigits 16 c.toNat ++ ['\x7d']
  else [c]

/-- A string literal in its quotes. -/
def string (value : String) (quote : Quote) : String :=
  String.ofList (quote.char :: value.toList.flatMap (escape quote.char) ++ [quote.char])

/-! ## Members -/

/-- Whether a text has the shape of a word. -/
def isWordShaped : List Char → Bool
  | [] => false
  | c :: rest => isWordStart c && rest.all isWordChar

/-- Whether a number can be written after a dot: a natural number that is written
in full. -/
def isDotIndex (x : Number) : Bool :=
  match x.toInt? with
  | some n => 0 ≤ n && n < (Nat.pow 10 15 : Int)
  | none => false

/-- The key of a member as it stands after a dot, if it can. -/
def dotKey? : Expr → Option String
  | .number x note => if note.isBare && isDotIndex x then some x.text else none
  | .text value _ note =>
    if note.isBare && isWordShaped value.toList && !isReserved value then some value else none
  | _ => none

/-- A key that is fixed by the text. -/
def fieldKey : FieldKey → String
  | .name name => "." ++ name
  | .position index =>
    if isDotIndex index then "." ++ index.text else "[" ++ number index ++ "]"

/-! ## Calls -/

/-- Whether an argument keeps its grouping between blanks. -/
def isTight : Expr → Bool
  | .binary _ _ _ _ | .logical _ _ _ _ | .conditional _ _ _ _ => false
  | _ => true

/-- Whether an argument would read as the right operand of an operator. -/
def isSigned : Expr → Bool
  | .unary .plus _ _ | .unary .minus _ _ | .update _ .before _ _ => true
  | _ => false

/-- Whether arguments can follow a callee without parentheses. -/
def isSimpleCallee : Expr → Bool
  | .identifier _ _ | .field _ _ _ _ | .item _ _ _ => true
  | _ => false

/-- A call with parentheses. -/
def parenCall (callee : String) (arguments : List String) : String :=
  callee ++ "(" ++ ", ".intercalate arguments ++ ")"

/-- A call as a command. -/
def commandCall (callee : String) (arguments : List String) : String :=
  callee ++ String.join (arguments.map (" " ++ ·))

/-- Whether a call is written as a command where a command may stand. -/
def isCommand (callee : Expr) : List Expr → Bool
  | [] => false
  | first :: rest =>
    isSimpleCallee callee && isTight first && rest.all isTight && !isSigned first

/-- The text of a unary operator.  A blank keeps two equal signs apart. -/
def unary (op : UnaryOp) (argument : String) : String :=
  let clashes : Bool := match op with
    | .plus => argument.toList.head? = some '+'
    | .minus => argument.toList.head? = some '-'
    | .complement | .negate => false
  op.symbol ++ (if clashes then " " else "") ++ argument

/-! ## Expressions -/

mutual

/-- An expression.  `top` tells that a pipe or a command may stand here. -/
def expression (top : Bool) : Expr → String
  | .null note => withComments note "null"
  | .undefined note => withComments note "undefined"
  | .boolean value note => withComments note (if value then "true" else "false")
  | .number value note => withComments note (number value)
  | .text value quote note => withComments note (string value quote)
  | .identifier name note => withComments note name
  | .array items note => withComments note ("[" ++ ", ".intercalate (expressions items) ++ "]")
  | .field object key _ note => withComments note (expression false object ++ fieldKey key)
  | .item object key note =>
    withComments note (expression false object ++
      match dotKey? key with
      | some key => "." ++ key
      | none => "[" ++ expression true key ++ "]")
  | .call callee arguments isPiped note =>
    withComments note
      (if isPiped && top then
        match arguments with
        | [] => parenCall (expression false callee) []
        | first :: extra =>
          expression true first ++ " | " ++
            if isSimpleCallee callee && extra.all isTight then
              commandCall (expression false callee) (expressions extra)
            else parenCall (expression false callee) (expressions extra)
      else if top && isCommand callee arguments then
        commandCall (expression false callee) (expressions arguments)
      else parenCall (expression false callee) (expressions arguments))
  | .unary op argument note => withComments note (unary op (expression false argument))
  | .update op .before argument note =>
    withComments note (op.symbol ++ expression false argument)
  | .update op .after argument note =>
    withComments note (expression false argument ++ op.symbol)
  | .binary op left right note =>
    withComments note
      (expression false left ++ " " ++ op.symbol ++ " " ++ expression false right)
  | .logical op left right note =>
    withComments note
      (expression false left ++ " " ++ op.symbol ++ " " ++ expression false right)
  | .conditional test consequent alternate note =>
    withComments note
      (expression false test ++ " ? " ++ expression false consequent ++ " : " ++
        expression false alternate)
  | .paren inner note => withComments note ("(" ++ expression true inner ++ ")")

/-- Several expressions where neither a pipe nor a command may stand. -/
def expressions : List Expr → List String
  | [] => []
  | expr :: rest => expression false expr :: expressions rest

end

end Print

end TemplateLang
