import TemplateLang.CommandLine.Words
import TemplateLang.Text.Trim

/-!
# Requests

What the command line asks for: to render a template, to write it in its canonical
form, or to list its tokens.
-/

namespace TemplateLang.CommandLine

/-- A command with its options. -/
inductive Command where
  | render (input : String) (output variableFile : Option String)
      (settings : List (String × String))
  | format (input : String) (checks writes : Bool)
  | tokens (input : String)
deriving DecidableEq, Repr

/-- A command, and the configuration to use. -/
structure Request where
  command : Command
  config : Option String
deriving DecidableEq, Repr

/-! ## The commands and their options -/

/-- A variable and its value, with an equals sign between.  The name has no blanks
around it and is not empty. -/
def setting? (text : String) : Option (String × String) :=
  let name := Text.dropOuter (text.toList.takeWhile (· ≠ '='))
  match text.toList.dropWhile (· ≠ '=') with
  | _ :: value =>
    if name.isEmpty then none else some (String.ofList name, String.ofList value)
  | [] => none

/-- Options of every command. -/
def commonOptions : List OptionRule :=
  [⟨"config", some 'c', .value⟩, ⟨"log-level", none, .value⟩,
    ⟨"help", some 'h', .answer .help⟩]

def commandNames : List String :=
  ["render", "fmt", "tokens", "help"]

def rootLevel : Level :=
  ⟨⟨"version", some 'V', .answer .version⟩ :: commonOptions, 0, commandNames⟩

def renderLevel : Level :=
  ⟨[⟨"output", some 'o', .value⟩, ⟨"vars", none, .value⟩,
    ⟨"set", none, .values fun text => (setting? text).isSome⟩] ++ commonOptions, 1, []⟩

def formatLevel : Level :=
  ⟨[⟨"check", none, .switch⟩, ⟨"write", some 'w', .switch⟩] ++ commonOptions, 1, []⟩

def tokensLevel : Level :=
  ⟨commonOptions, 1, []⟩

/-- Read the words of a command. -/
def readCommand (level : Level) (words : List String) : Except UsageError Taken := do
  let (taken, _) ← Taken.start.takeAll level words
  taken.settle

/-- The one word that a command takes. -/
def inputOf (taken : Taken) : Except UsageError String :=
  match taken.others with
  | input :: _ => .ok input
  | [] => .error .missingWord

/-- The request of a command and its words. -/
def readRequest (name : String) (words : List String) : Except UsageError Request :=
  match name with
  | "render" => do
    let taken ← readCommand renderLevel words
    let input ← inputOf taken
    .ok ⟨.render input (taken.value? "output") (taken.value? "vars")
      ((taken.values "set").filterMap setting?), taken.value? "config"⟩
  | "fmt" => do
    let taken ← readCommand formatLevel words
    if taken.has "check" && taken.has "write" then .error .conflict
    else do
      let input ← inputOf taken
      .ok ⟨.format input (taken.has "check") (taken.has "write"), taken.value? "config"⟩
  | "tokens" => do
    let taken ← readCommand tokensLevel words
    let input ← inputOf taken
    .ok ⟨.tokens input, taken.value? "config"⟩
  | _ =>
    match words with
    | [] => .error .help
    | [topic] => .error (if commandNames.contains topic then .help else .unknownCommand)
    | _ => .error .unknownCommand

/-- The request of a command line.  A configuration that is given after the command
counts before one given in front of it. -/
def Request.ofWords (words : List String) : Except UsageError Request := do
  let (taken, command) ← Taken.start.takeAll rootLevel words
  match command with
  | some (name, words) => do
    let request ← readRequest name words
    let taken ← taken.settle
    .ok { request with config := request.config.orElse fun _ => taken.value? "config" }
  | none => do
    let taken ← taken.settle
    .error (if taken.given.isEmpty then .nothingAsked else .missingCommand)

end TemplateLang.CommandLine
