import TemplateLang.Pattern.Reader

/-!
# Programs of patterns

A pattern is compiled to a graph of instructions.  An instruction takes a character,
asks for a place, notes a position, or chooses between two ways of which it prefers
the first.  Programs are built from the end: each part is given the instruction to
go on with.
-/

namespace TemplateLang.Pattern

/-- An instruction.  The numbers are those of instructions, but for `slot`, where the
position is noted. -/
inductive Instruction where
  | chars (set : CharSet) (next : Nat)
  | look (look : Look) (next : Nat)
  | note (slot next : Nat)
  | fork (preferred other : Nat)
  | goTo (next : Nat)
  | done
deriving Repr

/-- Instructions by number. -/
abbrev Instructions : Type :=
  Array Instruction

/-- Parts of programs. -/
abbrev Builder (α : Type) : Type :=
  StateM Instructions α

namespace Builder

/-- Add an instruction and give its number. -/
def add (instruction : Instruction) : Builder Nat := do
  let number := (← get).size
  modify (·.push instruction)
  pure number

/-- Replace an instruction. -/
def put (number : Nat) (instruction : Instruction) : Builder Unit :=
  modify fun instructions => instructions.setIfInBounds number instruction

/-- A choice between going into a part and going past it. -/
def choice (greedy : Bool) (inside past : Nat) : Instruction :=
  if greedy then .fork inside past else .fork past inside

/-- A part repeated one or more times. -/
def oneOrMore (build : Nat → Builder Nat) (greedy : Bool) (next : Nat) : Builder Nat := do
  let again ← add .done
  let start ← build again
  put again (choice greedy start next)
  pure start

/-- A part repeated any number of times.  A part that can match nothing is entered as
a whole or not at all, so that going round it again needs a character. -/
def zeroOrMore (build : Nat → Builder Nat) (isNullable greedy : Bool) (next : Nat) :
    Builder Nat := do
  if isNullable then
    let start ← oneOrMore build greedy next
    add (choice greedy start next)
  else
    let again ← add .done
    let start ← build again
    put again (choice greedy start next)
    pure again

/-- A part a number of times in a row. -/
def times (build : Nat → Builder Nat) : Nat → Nat → Builder Nat
  | 0, next => pure next
  | count + 1, next => do
    let rest ← times build count next
    build rest

/-- A part up to a number of times, where each time goes on to `past` if it is the
last. -/
def upTo (build : Nat → Builder Nat) (greedy : Bool) (past : Nat) : Nat → Builder Nat
  | 0 => pure past
  | count + 1 => do
    let rest ← upTo build greedy past count
    let start ← build rest
    add (choice greedy start past)

end Builder

open Builder in
/-- The instructions for a pattern, with `next` to go on with. -/
def Regex.build : Regex → Nat → Builder Nat
  | .empty, next => pure next
  | .chars set, next => add (.chars set next)
  | .look wanted, next => add (.look wanted next)
  | .sequence first second, next => do
    let rest ← second.build next
    first.build rest
  | .either first second, next => do
    let preferred ← first.build next
    let other ← second.build next
    add (.fork preferred other)
  | .group index body, next => do
    let stop ← add (.note (2 * index + 1) next)
    let start ← body.build stop
    add (.note (2 * index) start)
  | .repetition body least most greedy, next =>
    match least, most with
    | 0, none => zeroOrMore body.build body.isNullable greedy next
    | least + 1, none => do
      let rest ← oneOrMore body.build greedy next
      times body.build least rest
    | least, some most => do
      let past ← add (.goTo next)
      let rest ← upTo body.build greedy past (most - least)
      times body.build least rest

/-- A program: its instructions, the first of them, and the groups. -/
structure Program where
  instructions : Instructions
  start : Nat
  groupCount : Nat
  groupNames : List (String × Nat)

/-- The program of a pattern.  The slots of a group are twice its number and the one
after that, and the whole match is group zero. -/
def Compiled.program (compiled : Compiled) : Program :=
  let whole : Builder Nat := do
    let stop ← Builder.add .done
    (Regex.group 0 compiled.regex).build stop
  let (start, instructions) := whole.run #[]
  ⟨instructions, start, compiled.groupCount, compiled.groupNames⟩

end TemplateLang.Pattern
