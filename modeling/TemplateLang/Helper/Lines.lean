import TemplateLang.Helper.Texts

/-!
# Helpers on lines

A line of a text is found by its number, counted from one or back from the last, or
as the first one that matches a pattern.  The lines before it and those after it are
texts; an offset moves the place where they are cut.
-/

namespace TemplateLang.Helper

/-- The lines of a text. -/
def linesOf (text : String) : List (List Char) :=
  splitText ['\n'] text.toList

/-- The text of lines. -/
def unlines (lines : List (List Char)) : String :=
  String.ofList (['\n'].intercalate lines)

/-- The position of the line with a number.  Numbers between minus one and one name
none. -/
def lineOfNumber? (lineCount : Nat) (n : Number) : Option Nat :=
  if (Number.ofInt 1).lessEqual n then some (clampTo (sizeBound - 1) n - 1)
  else if n.lessEqual (Number.ofInt (-1)) then
    match n.truncate? with
    | some position =>
      if position.natAbs ≤ lineCount then some (lineCount - position.natAbs) else none
    | none => none
  else none

/-- The position of a line, if it is found. -/
def findLine (helper : String) (arguments : List Value) (lines : List (List Char)) :
    Except HelperFault (Option Nat) :=
  match argument arguments 1 with
  | .number n => .ok (lineOfNumber? lines.length n)
  | .text pattern => do
    let program ← patternOf pattern
    .ok (lines.findIdx? program.matchesIn)
  | _ => .error (refuse helper arguments 1 .lineOrPattern)

/-- Where lines are cut: an offset from a number of lines. -/
def cutPosition (lineCount : Nat) (cut offset : Number) : Nat :=
  clampTo lineCount (cut + offset)

/-- Cut the lines of a text around the line that is looked for.  `keep` takes a
number of lines before the cut, or leaves them out. -/
def cutAround (helper : String) (place : Nat → Number)
    (keep : Nat → List (List Char) → List (List Char)) (arguments : List Value) :
    Except HelperFault Value := do
  let lines := linesOf (textArgument arguments 0)
  let offset := numberOr (.zero false) (← optionalNumber? helper arguments 2)
  match ← findLine helper arguments lines with
  | some position =>
    .ok (.text (unlines (keep (cutPosition lines.length (place position) offset) lines)))
  | none => .ok (.text "")

/-- The lines before a line. -/
def before (arguments : List Value) : Except HelperFault Value :=
  cutAround "before" (fun position => Number.ofInt position) List.take arguments

/-- The lines after a line. -/
def after (arguments : List Value) : Except HelperFault Value :=
  cutAround "after" (fun position => Number.ofInt position + Number.ofInt 1) List.drop arguments

end TemplateLang.Helper
