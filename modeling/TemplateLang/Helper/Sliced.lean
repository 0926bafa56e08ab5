import TemplateLang.Helper.Collections
import TemplateLang.Helper.Lines

/-!
# Lines and parts by slicing

The helpers on lines, and the part of an array or of a text, with every count and every position
as a double, and every cut as a slice.

A cut of lines that goes beyond them is refused, and so is a position before the first: then there
is no result.  What is no range of the items, since its ends are not in order or lie beyond them,
has no items to give, and an empty part stands for it.
-/

namespace TemplateLang

namespace Number

/-- A number without its fraction. -/
def trunc : Number → Number
  | finite s m e canonical =>
    if 0 ≤ e then finite s m e canonical else round s (m / Nat.pow 2 (-e).toNat) 0
  | x => x

/-- A number moved into the range between two others, which must be in order.  NaN stays. -/
def clamp? (low high x : Number) : Option Number :=
  if low.lessEqual high then
    some (if x.less low then low else if high.less x then high else x)
  else none

end Number

namespace Helper

/-! ## Lines -/

/-- The size that a number is converted to. -/
def toSize (n : Number) : Nat :=
  clampTo (sizeBound - 1) n

/-- The position of the line with a number, if there is one. -/
def locate? (lineCount : Nat) (n : Number) : Option (Option Nat) :=
  if (Number.ofInt 1).lessEqual n then
    let number := toSize n.trunc
    if 1 ≤ number then some (some (number - 1)) else none
  else if n.lessEqual (Number.ofInt (-1)) then
    let fromEnd := -n.trunc
    let count := Number.ofInt lineCount
    some (if fromEnd.lessEqual count then some (toSize (count - fromEnd)) else none)
  else some none

/-- The position of a line, if it is found. -/
def findLine? (helper : String) (arguments : List Value) (lines : List (List Char)) :
    Option (Except HelperFault (Option Nat)) :=
  match argument arguments 1 with
  | .number n => (locate? lines.length n).map .ok
  | _ => some (findLine helper arguments lines)

/-- Where lines are cut: at a number, moved between the ends of the lines. -/
def cut? (lineCount : Nat) (n : Number) : Option Nat := do
  let inside ← Number.clamp? (.zero false) (Number.ofInt lineCount) n.trunc
  let cut := toSize inside
  if cut ≤ lineCount then some cut else none

/-- Cut the lines of a text around the line that is looked for. -/
def cutAround? (helper : String) (place : Nat → Number)
    (keep : Nat → List (List Char) → List (List Char)) (arguments : List Value) :
    Option (Except HelperFault Value) :=
  let lines := linesOf (textArgument arguments 0)
  match optionalNumber? helper arguments 2 with
  | .error fault => some (.error fault)
  | .ok offset => do
    match ← findLine? helper arguments lines with
    | .error fault => some (.error fault)
    | .ok none => some (.ok (.text ""))
    | .ok (some position) =>
      let cut ← cut? lines.length (place position + numberOr (.zero false) offset)
      some (.ok (.text (unlines (keep cut lines))))

/-- The lines before a line. -/
def before? (arguments : List Value) : Option (Except HelperFault Value) :=
  cutAround? "before" (fun position => Number.ofInt position) List.take arguments

/-- The lines after a line. -/
def after? (arguments : List Value) : Option (Except HelperFault Value) :=
  cutAround? "after" (fun position => Number.ofInt position + Number.ofInt 1) List.drop arguments

/-! ## Parts -/

/-- The position that a number stands for in something of a length. -/
def relativeIndex? (length : Nat) (n : Number) : Option Nat :=
  let count := Number.ofInt length
  let index := n.trunc
  let resolved := if index.less (.zero false) then count + index else index
  (Number.clamp? (.zero false) count resolved).map toSize

variable {α : Type}

/-- The items of a range, if there are such items. -/
def range? (items : List α) (start stop : Nat) : Option (List α) :=
  if start ≤ stop ∧ stop ≤ items.length then some (part items start stop) else none

/-- The part of a list between the positions that two numbers stand for. -/
def partBetween? (items : List α) (start : Number) (stop : Option Number) :
    Option (List α) := do
  let start ← relativeIndex? items.length start
  let stop ← match stop with
    | some stop => relativeIndex? items.length stop
    | none => some items.length
  some ((range? items start stop).getD [])

end Helper

end TemplateLang
