/-!
# Words of a command line

A command has options and positions for other words.  Long options start with two
hyphens and have their value after an equals sign or as the next word; short ones start
with one hyphen and can be written together, the last one with its value.  After two
hyphens alone all words are taken as they are.

A value is looked at when the next option or the end is reached, so that of two
mistakes the later one may be the one that is told.
-/

namespace TemplateLang.CommandLine

/-- Why a command line is refused, or answered without doing anything. -/
inductive UsageError where
  | help
  | version
  | nothingAsked
  | missingCommand
  | unknownCommand
  | unknownWord
  | missingWord
  | missingValue
  | needlessValue
  | refusedValue
  | conflict
deriving DecidableEq, Repr

/-- What an option asks for. -/
inductive OptionKind where
  | switch
  | value
  | values (isAllowed : String → Bool)
  | answer (error : UsageError)

/-- An option with its two names. -/
structure OptionRule where
  name : String
  letter : Option Char
  kind : OptionKind

/-- Whether an option is followed by a value. -/
def OptionRule.takesValue (rule : OptionRule) : Bool :=
  match rule.kind with
  | .value | .values _ => true
  | .switch | .answer _ => false

/-- What a command takes: options, a number of other words, and commands of its
own. -/
structure Level where
  options : List OptionRule
  positions : Nat
  commands : List String

/-- What was read of a command: options with their values, other words, and an option
that still waits to be looked at, with its value if it has one. -/
structure Taken where
  given : List (String × String)
  others : List String
  pending : Option (OptionRule × Option String)
  awaitsValue : Bool
  onlyOthers : Bool

namespace Taken

def start : Taken :=
  ⟨[], [], none, false, false⟩

/-- Note an option with its value.  One that cannot be repeated is not given twice. -/
def note (taken : Taken) (rule : OptionRule) (value : String) : Except UsageError Taken :=
  match rule.kind with
  | .answer error => .error error
  | .values isAllowed =>
    if isAllowed value then .ok { taken with given := taken.given ++ [(rule.name, value)] }
    else .error .refusedValue
  | .switch | .value =>
    if taken.given.any (·.1 = rule.name) then .error .conflict
    else .ok { taken with given := taken.given ++ [(rule.name, value)] }

/-- Look at the option that waits. -/
def settle (taken : Taken) : Except UsageError Taken :=
  let settled := { taken with pending := none, awaitsValue := false }
  match taken.pending with
  | none => .ok settled
  | some (_, none) => .error .missingValue
  | some (rule, some value) => settled.note rule value

/-- Take an option without a value, or with the value attached to it. -/
def takeNow (taken : Taken) (rule : OptionRule) (value : String) :
    Except UsageError Taken := do
  (← taken.settle).note rule value

/-- Take an option whose value is the next word. -/
def takeLater (taken : Taken) (rule : OptionRule) : Except UsageError Taken := do
  let taken ← taken.settle
  .ok { taken with pending := some (rule, none), awaitsValue := true }

/-- Take a word as the value of the option that waits for it. -/
def takeValue (taken : Taken) (word : String) : Taken :=
  { taken with
    pending := taken.pending.map fun (rule, _) => (rule, some word)
    awaitsValue := false }

/-- Take a long option, after its hyphens. -/
def takeLong (level : Level) (taken : Taken) (word : List Char) :
    Except UsageError Taken :=
  let name := String.ofList (word.takeWhile (· ≠ '='))
  let attached := match word.dropWhile (· ≠ '=') with
    | _ :: value => some (String.ofList value)
    | [] => none
  match level.options.find? (·.name = name), attached with
  | none, _ => .error .unknownWord
  | some rule, none =>
    if rule.takesValue then taken.takeLater rule else taken.takeNow rule ""
  | some rule, some value =>
    if rule.takesValue then taken.takeNow rule value else .error .needlessValue

/-- Take short options, after their hyphen. -/
def takeShort (level : Level) : Taken → List Char → Except UsageError Taken
  | taken, [] => .ok taken
  | taken, letter :: rest =>
    match level.options.find? (·.letter = some letter) with
    | none => .error .unknownWord
    | some rule =>
      if rule.takesValue then
        match rest with
        | [] => taken.takeLater rule
        | '=' :: value => taken.takeNow rule (String.ofList value)
        | value => taken.takeNow rule (String.ofList value)
      else do
        takeShort level (← taken.takeNow rule "") rest

/-- Take a word that is no option. -/
def takeOther (level : Level) (taken : Taken) (word : String) :
    Except UsageError Taken :=
  if taken.others.length < level.positions then do
    let taken ← taken.settle
    .ok { taken with others := taken.others ++ [word] }
  else if level.commands.isEmpty || (taken.onlyOthers && level.commands.contains word) then
    .error .unknownWord
  else .error .unknownCommand

/-- Take a word. -/
def take (level : Level) (taken : Taken) (word : String) : Except UsageError Taken :=
  if taken.onlyOthers then taken.takeOther level word
  else
    match word.toList with
    | ['-', '-'] => .ok { taken with onlyOthers := true }
    | '-' :: '-' :: name => taken.takeLong level name
    | '-' :: c :: letters => taken.takeShort level (c :: letters)
    | _ => if taken.awaitsValue then .ok (taken.takeValue word)
      else taken.takeOther level word

/-- Take words up to a command: what was read, and the command with the words after
it. -/
def takeAll (level : Level) :
    Taken → List String → Except UsageError (Taken × Option (String × List String))
  | taken, [] => .ok (taken, none)
  | taken, word :: rest =>
    if !taken.onlyOthers && !taken.awaitsValue && level.commands.contains word then
      .ok (taken, some (word, rest))
    else do
      takeAll level (← taken.take level word) rest

/-- The last value of an option. -/
def value? (taken : Taken) (name : String) : Option String :=
  taken.given.lookup name

/-- All values of an option. -/
def values (taken : Taken) (name : String) : List String :=
  taken.given.filterMap fun (other, value) => if other = name then some value else none

/-- Whether an option is given. -/
def has (taken : Taken) (name : String) : Bool :=
  (taken.value? name).isSome

end Taken

end TemplateLang.CommandLine
