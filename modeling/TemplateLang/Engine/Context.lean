import TemplateLang.Eval.Template
import TemplateLang.Helper.Registry

/-!
# Contexts

A context is all that a template sees and changes: the variables, the helpers, the
delimiters of its tags, and the directory that its paths start from.  A context can be
derived from another one, whose variables it takes over in one frame.
-/

namespace TemplateLang

/-- What templates are rendered in. -/
structure Context where
  directory : String
  tags : Delimiters
  helpers : Helpers
  scopes : Scopes

namespace Context

/-- What a context is made with.  What is not given stays as it is. -/
structure Options where
  directory : Option String
  tags : Option Delimiters
  bindings : Table Value
  helpers : Helpers

namespace Options

def none : Options :=
  ⟨.none, .none, [], []⟩

/-- Some options, and others over them. -/
def andThen (first second : Options) : Options where
  directory := second.directory.orElse fun _ => first.directory
  tags := second.tags.orElse fun _ => first.tags
  bindings := Table.overlay first.bindings second.bindings
  helpers := Table.overlay first.helpers second.helpers

end Options

/-- A context with the helpers of the language and the standard delimiters, in a
directory, as far as options do not say otherwise. -/
def create (directory : String) (options : Options) : Context where
  directory := options.directory.getD directory
  tags := options.tags.getD Delimiters.standard
  helpers := Table.overlay Helpers.builtin options.helpers
  scopes := Scopes.ofRoot (Table.ofEntries options.bindings)

/-- All variables, the inner ones over the outer ones. -/
def bindings (context : Context) : Table Value :=
  context.scopes.flatten

/-- A context derived from another one. -/
def extend (context : Context) (options : Options) : Context where
  directory := options.directory.getD context.directory
  tags := options.tags.getD context.tags
  helpers := Table.overlay context.helpers options.helpers
  scopes := Scopes.ofRoot (Table.overlay context.bindings options.bindings)

/-- The helpers of a context, as its templates call them. -/
def callables (context : Context) (world : World) : Callables :=
  context.helpers.callables world context.directory

/-- Run an action on the variables of a context. -/
def run {ε α : Type} (context : Context) (action : Action ε α) : Except ε α × Context :=
  let (result, scopes) := action.on context.scopes
  (result, { context with scopes := scopes })

/-- The value of an expression in a context. -/
def evaluate (context : Context) (world : World) (expr : Expr) :
    Except EvalError Value × Context :=
  context.run (expr.evaluate (context.callables world))

/-- What a template writes in a context. -/
def render (context : Context) (world : World) (template : Template) :
    Except EvalError String × Context :=
  context.run (template.evaluate (context.callables world))

/-- Call a helper in a context, if it has one of that name. -/
def call? (context : Context) (world : World) (name : String) (arguments : List Value) :
    Option (Except HelperFault Value × Context) :=
  (context.callables world name).map fun helper => context.run (helper arguments)

/-- Change a variable that is there. -/
def set? (context : Context) (name : String) (value : Value) : Option Context :=
  if (context.scopes.get? name).isSome then
    some { context with scopes := context.scopes.declare name value }
  else none

end Context

end TemplateLang
