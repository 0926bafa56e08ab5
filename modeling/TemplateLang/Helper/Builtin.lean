import TemplateLang.Date.Format
import TemplateLang.Eval.Action
import TemplateLang.Files.Tree
import TemplateLang.Helper.Collections
import TemplateLang.Helper.Lines

/-!
# The helpers of the language

Every template can call these.  Most of them are functions of their arguments; the
others read the clock, the files or the variables, or write a variable.
-/

namespace TemplateLang

/-- A helper of the language. -/
inductive Builtin where
  | camel | snake | pascal | kebab | constant | upper | lower | trim | ltrim | rtrim
  | replace | split | join | seq | append | uniq | slice | contains | len | before | after
  | date | eval | define | resolve | read | noop
deriving DecidableEq, Repr

namespace Builtin

/-- Every helper, in the order in which they are listed. -/
def all : List Builtin :=
  [camel, snake, pascal, kebab, constant, upper, lower, trim, ltrim, rtrim, replace, split,
    join, seq, append, uniq, slice, contains, len, before, after, date, eval, define, resolve,
    read, noop]

/-- The name that templates call a helper by. -/
def name : Builtin → String
  | camel => "camel"
  | snake => "snake"
  | pascal => "pascal"
  | kebab => "kebab"
  | constant => "constant"
  | upper => "upper"
  | lower => "lower"
  | trim => "trim"
  | ltrim => "ltrim"
  | rtrim => "rtrim"
  | replace => "replace"
  | split => "split"
  | join => "join"
  | seq => "seq"
  | append => "append"
  | uniq => "uniq"
  | slice => "slice"
  | contains => "contains"
  | len => "len"
  | before => "before"
  | after => "after"
  | date => "date"
  | eval => "eval"
  | define => "define"
  | resolve => "resolve"
  | read => "read"
  | noop => "noop"

/-- Whether a helper that is given an array first is applied to each of its items.
Those that convert a text are. -/
def mapsArrays : Builtin → Bool
  | camel | snake | pascal | kebab | constant | upper | lower | trim | ltrim | rtrim
  | replace | split => true
  | _ => false

end Builtin

/-- What helpers see besides their arguments and the variables: the files, the clock,
and the directory that paths start from. -/
structure World where
  files : FileTree
  now : Moment

namespace Helper

/-- The current date in a format. -/
def date (now : Moment) (arguments : List Value) : Except HelperFault Value :=
  let format := match argument arguments 0 with
    | .undefined => "%Y-%m-%d"
    | other => other.render
  match DateFormat.write? now format with
  | some text => .ok (.text text)
  | none => .error (.invalidDateFormat format)

/-- Declare the first argument under the name that the second one is. -/
def define (arguments : List Value) : Action HelperFault Value :=
  match argument arguments 1 with
  | .text name =>
    if name.isEmpty then throw (refuse "define" arguments 1 .name)
    else do
      Action.declare name (argument arguments 0)
      pure (.text "")
  | _ => throw (refuse "define" arguments 1 .name)

/-- A path from the parts that the arguments are. -/
def resolve (directory : String) (arguments : List Value) : Value :=
  .text (arguments.foldl (fun path part => Path.join path part.render) directory)

/-- The text of a file. -/
def read (files : FileTree) (directory : String) (arguments : List Value) :
    Except HelperFault Value :=
  let path := Path.join directory (textArgument arguments 0)
  match files.readText path with
  | .ok text => .ok (.text text)
  | .error error => .error (.unreadableFile path error.message)

end Helper

/-- What a helper of the language does.  `evaluateText` evaluates an expression that
is given as a text. -/
def Builtin.run (world : World) (directory : String)
    (evaluateText : String → Action HelperFault Value) (builtin : Builtin)
    (arguments : List Value) : Action HelperFault Value :=
  match builtin with
  | camel => pure (Helper.converted Words.camel arguments)
  | snake => pure (Helper.converted Words.snake arguments)
  | pascal => pure (Helper.converted Words.pascal arguments)
  | kebab => pure (Helper.converted Words.kebab arguments)
  | constant => pure (Helper.converted Words.constant arguments)
  | upper => pure (Helper.converted Unicode.upperText arguments)
  | lower => pure (Helper.converted Unicode.lowerText arguments)
  | trim => pure (Helper.converted Text.dropOuter arguments)
  | ltrim => pure (Helper.converted Text.dropLeading arguments)
  | rtrim => pure (Helper.converted Text.dropTrailing arguments)
  | replace => Action.ofExcept (Helper.replace arguments)
  | split => pure (Helper.split arguments)
  | join => Action.ofExcept (Helper.join arguments)
  | seq => Action.ofExcept (Helper.seq arguments)
  | append => Action.ofExcept (Helper.append arguments)
  | uniq => Action.ofExcept (Helper.uniq arguments)
  | slice => Action.ofExcept (Helper.slice arguments)
  | contains => Action.ofExcept (Helper.contains arguments)
  | len => Action.ofExcept (Helper.len arguments)
  | before => Action.ofExcept (Helper.before arguments)
  | after => Action.ofExcept (Helper.after arguments)
  | date => Action.ofExcept (Helper.date world.now arguments)
  | eval => evaluateText (Helper.textArgument arguments 0)
  | define => Helper.define arguments
  | resolve => pure (Helper.resolve directory arguments)
  | read => Action.ofExcept (Helper.read world.files directory arguments)
  | noop => pure (.text "")

end TemplateLang
