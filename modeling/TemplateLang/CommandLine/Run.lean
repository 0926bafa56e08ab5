import TemplateLang.CommandLine.Request
import TemplateLang.CommandLine.Settings

/-!
# Runs

A run does what a request asks for.  It ends with a text for the output and perhaps a
changed file, or with an error.
-/

namespace TemplateLang.CommandLine

/-- How a run ends that has no error.  A template that is checked may not be in its
canonical form. -/
inductive Status where
  | success
  | unformatted
deriving DecidableEq, Repr

/-- What a run leaves: its end, the output, and the files. -/
structure Outcome where
  status : Status
  output : String
  files : FileTree

/-- Where a run takes place. -/
structure Surroundings where
  files : FileTree
  now : Moment
  userDirectory : Option String

namespace Surroundings

def world (surroundings : Surroundings) : World :=
  ⟨surroundings.files, surroundings.now⟩

/-- A successful end with a text for the output. -/
def print (surroundings : Surroundings) (output : String) : Outcome :=
  ⟨.success, output, surroundings.files⟩

/-- A successful end with a text written to a file. -/
def save (surroundings : Surroundings) (path text : String) : Except TemplateError Outcome := do
  .ok ⟨.success, "", ← ofFiles (surroundings.files.writeText path text)⟩

/-- Render a template to the output or to a file. -/
def render (surroundings : Surroundings) (config : Config) (input : String)
    (output variableFile : Option String) (settings : List (String × String)) :
    Except TemplateError Outcome := do
  let source ← ofFiles (surroundings.files.readText input)
  let bindings ← collectVariables surroundings.files variableFile settings
  let text ← config.renderWith surroundings.world surroundings.files.herePath bindings source
  match output with
  | some path => surroundings.save path text
  | none => .ok (surroundings.print text)

/-- Write a template in its canonical form, or only tell whether it is. -/
def format (surroundings : Surroundings) (config : Config) (input : String)
    (checks writes : Bool) : Except TemplateError Outcome := do
  let source ← ofFiles (surroundings.files.readText input)
  let formatted ← config.formatSource source
  if checks then
    .ok ⟨if formatted = source then .success else .unformatted, "", surroundings.files⟩
  else if writes then
    if formatted = source then .ok (surroundings.print "") else surroundings.save input formatted
  else .ok (surroundings.print formatted)

/-- List the tokens of a template, one on each line. -/
def tokens (surroundings : Surroundings) (config : Config) (input : String) :
    Except TemplateError Outcome := do
  let source ← ofFiles (surroundings.files.readText input)
  let tokens ← config.tokenize source
  let index := LineIndex.ofSource source.toList
  .ok (surroundings.print (String.join (tokens.map fun token => token.describe index ++ "\n")))

/-- Do what a request asks for. -/
def run (surroundings : Surroundings) (request : Request) : Except TemplateError Outcome := do
  let config ← loadConfig surroundings.files surroundings.userDirectory request.config
  match request.command with
  | .render input output variableFile settings =>
    surroundings.render config input output variableFile settings
  | .format input checks writes => surroundings.format config input checks writes
  | .tokens input => surroundings.tokens config input

end Surroundings

end TemplateLang.CommandLine
