import TemplateLang.Eval.Expression
import TemplateLang.Grammar.Template
import TemplateLang.Helper.Builtin
import TemplateLang.Text.Quoted

/-!
# Tables of helpers

Templates find helpers by name.  Besides those of the language a host can add its
own, which may read and write variables too.

A helper may evaluate an expression that calls helpers again.  How deep this goes is
bounded, so that every evaluation ends.
-/

namespace TemplateLang

/-- What a helper does: the work of a helper of the language, or that of the host. -/
inductive HelperAction where
  | builtin (builtin : Builtin)
  | host (run : List Value → Action HelperFault Value)

/-- A helper, and whether it is applied to each item of an array that is its first
argument. -/
structure Helper where
  action : HelperAction
  mapsArrays : Bool

/-- Helpers by name. -/
abbrev Helpers : Type :=
  Table Helper

namespace Helpers

/-- The helpers of the language. -/
def builtin : Helpers :=
  Builtin.all.map fun builtin => (builtin.name, ⟨.builtin builtin, builtin.mapsArrays⟩)

/-- The names of helpers, in quotes and braces. -/
def describe (helpers : Helpers) : String :=
  "\x7b" ++ ", ".intercalate (helpers.names.map Quoted.inQuotes) ++ "\x7d"

end Helpers

/-- The values of a function at items, in order. -/
def collect {ε : Type} (apply : Value → Action ε Value) : List Value → Action ε (List Value)
  | [] => pure []
  | item :: rest => do
    let value ← apply item
    let values ← collect apply rest
    pure (value :: values)

namespace Helper

/-- Apply a function to arguments, or, if the first is an array, to each of its items
with the other arguments. -/
def mapped (apply : List Value → Action HelperFault Value) (arguments : List Value) :
    Action HelperFault Value :=
  match arguments with
  | .array items :: rest => do
    let values ← collect (fun item => apply (item :: rest)) items
    pure (.array values)
  | arguments => apply arguments

/-- Call a helper. -/
def call (world : World) (directory : String)
    (evaluateText : String → Action HelperFault Value) (helper : Helper)
    (arguments : List Value) : Action HelperFault Value :=
  let apply := match helper.action with
    | .builtin builtin => builtin.run world directory evaluateText
    | .host run => run
  if helper.mapsArrays then mapped apply arguments else apply arguments

/-- Evaluate an expression that is given as a text. -/
def evaluateText (callables : Callables) (text : String) : Action HelperFault Value :=
  match parseExpression text.toList with
  | .ok expr =>
    (expr.evaluate callables).mapFailure fun error => .expressionFailed error.fault.message
  | .error diagnostic => throw (.invalidExpression text diagnostic.message)

end Helper

namespace Helpers

/-- The greatest depth to which helpers evaluate expressions in each other. -/
def maxDepth : Nat :=
  1000

/-- Helpers as they can be called, when the expressions that they evaluate may go down
a number of times more. -/
def callablesAt (helpers : Helpers) (world : World) (directory : String) : Nat → Callables
  | 0 => fun name =>
    (Table.get? helpers name).map
      (Helper.call world directory fun _ => throw .expressionTooDeep)
  | depth + 1 => fun name =>
    (Table.get? helpers name).map
      (Helper.call world directory
        (Helper.evaluateText (callablesAt helpers world directory depth)))

/-- Helpers as templates call them. -/
def callables (helpers : Helpers) (world : World) (directory : String) : Callables :=
  callablesAt helpers world directory maxDepth

end Helpers

end TemplateLang
