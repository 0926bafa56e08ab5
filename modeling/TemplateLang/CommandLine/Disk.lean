import TemplateLang.CommandLine.Run

/-!
# Runs on a disk

A run as it works on files, step by step: it looks at the files as they are at the moment, and
it may write a text to one of them.  A file that cannot be written stays as it was.  A failure
ends the run and takes nothing back: the files are left as the steps before it left them.
-/

namespace TemplateLang.CommandLine

/-- A computation on files that gives a value or fails. -/
abbrev DiskAction (α : Type) : Type :=
  ExceptT TemplateError (StateM FileTree) α

namespace DiskAction

variable {α : Type}

/-- Run an action: what it gives, and the files afterwards. -/
def on (action : DiskAction α) (files : FileTree) : Except TemplateError α × FileTree :=
  (ExceptT.run action).run files

/-- Find something out from the files as they are. -/
def look (question : FileTree → Except TemplateError α) : DiskAction α :=
  ExceptT.mk (fun files => (question files, files))

/-- Write a text to a file. -/
def write (path text : String) : DiskAction Unit :=
  ExceptT.mk fun files =>
    match files.writeText path text with
    | .ok after => (.ok (), after)
    | .error error => (.error (.file error), files)

@[simp]
theorem on_pure (value : α) (files : FileTree) :
    (pure value : DiskAction α).on files = (.ok value, files) :=
  rfl

@[simp]
theorem on_look (question : FileTree → Except TemplateError α) (files : FileTree) :
    (look question).on files = (question files, files) :=
  rfl

theorem on_write (path text : String) (files : FileTree) :
    (write path text).on files =
      match files.writeText path text with
      | .ok after => (.ok (), after)
      | .error error => (.error (.file error), files) :=
  rfl

/-- A failure ends a sequence, with the files as the first part left them. -/
theorem on_bind {β : Type} (action : DiskAction α) (next : α → DiskAction β) (files : FileTree) :
    (action >>= next).on files =
      match action.on files with
      | (.ok value, after) => (next value).on after
      | (.error error, after) => (.error error, after) := by
  simp only [on, ExceptT.run_bind, StateT.run_bind]
  rcases (ExceptT.run action).run files with ⟨_ | _, _⟩ <;> rfl

end DiskAction

open DiskAction

/-- The text of a file. -/
def lookText (path : String) : DiskAction String :=
  look fun files => ofFiles (files.readText path)

/-- The steps of rendering a template.  Its helpers look at the files too. -/
def renderSteps (now : Moment) (config : Config) (input : String)
    (output variableFile : Option String) (settings : List (String × String)) :
    DiskAction (Status × String) := do
  let source ← lookText input
  let bindings ← look fun files => collectVariables files variableFile settings
  let text ← look fun files => config.renderWith ⟨files, now⟩ files.herePath bindings source
  match output with
  | some path => do
    write path text
    pure (.success, "")
  | none => pure (.success, text)

/-- The steps of writing a template in its canonical form. -/
def formatSteps (config : Config) (input : String) (checks writes : Bool) :
    DiskAction (Status × String) := do
  let source ← lookText input
  let formatted ← look fun _ => config.formatSource source
  if checks then
    pure (if formatted = source then .success else .unformatted, "")
  else if writes then
    if formatted = source then pure (.success, "")
    else do
      write input formatted
      pure (.success, "")
  else pure (.success, formatted)

/-- The steps of listing the tokens of a template. -/
def tokensSteps (config : Config) (input : String) : DiskAction (Status × String) := do
  let source ← lookText input
  let tokens ← look fun _ => config.tokenize source
  let index := LineIndex.ofSource source.toList
  pure (.success, String.join (tokens.map fun token => token.describe index ++ "\n"))

/-- The steps of a run. -/
def Request.steps (request : Request) (now : Moment) (userDirectory : Option String) :
    DiskAction (Status × String) := do
  let config ← look fun files => loadConfig files userDirectory request.config
  match request.command with
  | .render input output variableFile settings =>
    renderSteps now config input output variableFile settings
  | .format input checks writes => formatSteps config input checks writes
  | .tokens input => tokensSteps config input

/-- How a command line ends. -/
inductive Ending where
  | misused (error : UsageError)
  | failed (error : TemplateError)
  | done (status : Status) (output : String)

/-- Follow a command line: how it ends, and the files that it leaves. -/
def follow (now : Moment) (userDirectory : Option String) (words : List String)
    (files : FileTree) : Ending × FileTree :=
  match Request.ofWords words with
  | .error error => (.misused error, files)
  | .ok request =>
    match (request.steps now userDirectory).on files with
    | (.error error, after) => (.failed error, after)
    | (.ok (status, output), after) => (.done status output, after)

end TemplateLang.CommandLine
