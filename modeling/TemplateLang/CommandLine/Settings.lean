import TemplateLang.Engine.Source
import TemplateLang.Json.Reader

/-!
# Settings of a run

Where a run has its configuration and its variables from.  A configuration that is not
asked for by its path is looked for in the working directory and then in that of the
user; a run goes on without one.
-/

namespace TemplateLang.CommandLine

/-- Fail with a fault of the configuration. -/
def refuse {α : Type} (fault : ConfigFault) : Except TemplateError α :=
  .error (.config fault)

/-- A result about files. -/
def ofFiles {α : Type} (result : Except FileError α) : Except TemplateError α :=
  result.mapError .file

/-- The text of a file that must be there. -/
def readSettings (files : FileTree) (path : String) : Except TemplateError String :=
  if files.includes path then ofFiles (files.readText path) else refuse (.missing path)

/-- The configuration in a file. -/
def loadConfigFile (files : FileTree) (path : String) : Except TemplateError Config := do
  let text ← readSettings files path
  match Config.read? text with
  | none => refuse (.malformed path)
  | some config =>
    match config.problem? with
    | some reason => refuse (.invalid reason)
    | none => .ok config

/-- The place of a configuration in a directory. -/
def configPath : String :=
  "stencil/config.toml"

/-- The configuration of a run.  `userDirectory` is where the configurations of the
user are, if they have a place. -/
def loadConfig (files : FileTree) (userDirectory : Option String) (path : Option String) :
    Except TemplateError Config :=
  match path with
  | some path => loadConfigFile files path
  | none =>
    let userPath := userDirectory.map fun directory => Path.join directory configPath
    match (configPath :: userPath.toList).find? files.includes with
    | some path => loadConfigFile files path
    | none => .ok Config.standard

/-- The variables that a text writes, in JSON or else in TOML. -/
def variablesOf? (isJson : Bool) (text : String) : Option (Table Value) :=
  if isJson then (Json.read? text).bind Value.asObject? else Toml.read? text

/-- The variables in a file. -/
def loadVariables (files : FileTree) (path : String) : Except TemplateError (Table Value) := do
  let text ← readSettings files path
  match variablesOf? (Path.extension? path = some "json") text with
  | some bindings => .ok bindings
  | none => refuse (.malformed path)

/-- The value of a variable that is given on the command line: that of JSON text, or
else the text itself. -/
def settingValue (text : String) : Value :=
  (Json.read? text).getD (.text text)

/-- The variables of a run: those of a file, and single ones over them. -/
def collectVariables (files : FileTree) (path : Option String)
    (settings : List (String × String)) : Except TemplateError (Table Value) := do
  let bindings ← match path with
    | some path => loadVariables files path
    | none => .ok []
  .ok (Table.overlay bindings (settings.map fun (name, text) => (name, settingValue text)))

end TemplateLang.CommandLine
