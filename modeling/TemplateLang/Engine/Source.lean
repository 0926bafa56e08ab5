import TemplateLang.Engine.Config
import TemplateLang.Engine.Error
import TemplateLang.Print.Template
import TemplateLang.Token.Scan

/-!
# Work on templates

A source text is read, and then rendered, evaluated or written in its canonical form.
With a configuration every rendering starts from its variables anew.
-/

namespace TemplateLang

namespace Config

/-- The tokens of a template. -/
def tokenize (config : Config) (source : String) : Except TemplateError (List Token) :=
  match TemplateLang.tokenize config.tags source.toList with
  | .ok tokens => .ok tokens
  | .error diagnostics => .error (.refused diagnostics source.toList)

end Config

/-- Read a template. -/
def readTemplate (tags : Delimiters) (source : String) : Except TemplateError Template :=
  match parse tags source.toList with
  | .ok template => .ok template
  | .error diagnostic => .error (.refused [diagnostic] source.toList)

/-- Evaluation's result, with the source in its error. -/
def locate {α : Type} (source : String) (result : Except EvalError α) :
    Except TemplateError α :=
  result.mapError fun error => .failed error source.toList

/-- Read a template with the delimiters of a context and render it there. -/
def Context.renderSource (context : Context) (world : World) (source : String) :
    Except TemplateError String × Context :=
  match readTemplate context.tags source with
  | .error error => (.error error, context)
  | .ok template =>
    let (result, after) := context.render world template
    (locate source result, after)

/-- Read an expression and evaluate it in a context. -/
def Context.evaluateSource (context : Context) (world : World) (source : String) :
    Except TemplateError Value × Context :=
  match parseExpression source.toList with
  | .error diagnostic => (.error (.refused [diagnostic] source.toList), context)
  | .ok expr =>
    let (result, after) := context.evaluate world expr
    (locate source result, after)

namespace Config

/-- Render a template with more variables. -/
def renderWith (config : Config) (world : World) (directory : String)
    (bindings : Table Value) (source : String) : Except TemplateError String := do
  let template ← readTemplate config.tags source
  let context := (config.context directory).extend ⟨none, none, bindings, []⟩
  locate source (context.render world template).1

/-- Write a template in its canonical form. -/
def formatSource (config : Config) (source : String) : Except TemplateError String := do
  let template ← readTemplate config.tags source
  .ok template.print

end Config

end TemplateLang
