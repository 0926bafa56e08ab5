import TemplateLang.Helper.Arguments

/-!
# Helpers on arrays and texts

Most of them take an array, item by item, or a text, character by character.
-/

namespace TemplateLang.Helper

/-! ## Adding and removing -/

/-- Add items to an array, or texts to a text. -/
def append (arguments : List Value) : Except HelperFault Value :=
  match argument arguments 0 with
  | .array items => .ok (.array (items ++ arguments.drop 1))
  | .text head => .ok (.text (head ++ String.join ((arguments.drop 1).map Value.render)))
  | _ => .error (refuse "append" arguments 0 .arrayOrText)

/-- Items that are not equal to one of those kept before. -/
def firstsAfter (kept : List Value) : List Value → List Value
  | [] => []
  | item :: rest =>
    if kept.any (·.equals item) then firstsAfter kept rest
    else item :: firstsAfter (kept ++ [item]) rest

/-- The first of the items that are equal to each other. -/
def firsts (items : List Value) : List Value :=
  firstsAfter [] items

/-- An array without repeated items. -/
def uniq (arguments : List Value) : Except HelperFault Value :=
  match argument arguments 0 with
  | .array items => .ok (.array (firsts items))
  | _ => .error (refuse "uniq" arguments 0 .array)

/-! ## Parts -/

/-- The position that a number stands for in something of a length: cut toward zero,
counted from the end if negative, and not beyond either end. -/
def relativePosition (length : Nat) (n : Number) : Nat :=
  match n.truncate? with
  | some position =>
    if position < 0 then ((length : Int) + position).toNat else min position.toNat length
  | none => clampTo length n

/-- The part of a list between two positions, which is empty if they are not in
order. -/
def part {α : Type} (items : List α) (start stop : Nat) : List α :=
  (items.take stop).drop start

/-- The part of a list that two numbers mark; without the second it goes on to the
end. -/
def partBetween {α : Type} (items : List α) (start : Number) (stop : Option Number) : List α :=
  part items (relativePosition items.length start)
    ((stop.map (relativePosition items.length)).getD items.length)

/-- A part of an array or of a text. -/
def slice (arguments : List Value) : Except HelperFault Value := do
  let start := numberOr (.zero false) (← optionalNumber? "slice" arguments 1)
  let stop ← optionalNumber? "slice" arguments 2
  match argument arguments 0 with
  | .array items => .ok (.array (partBetween items start stop))
  | .text text => .ok (.text (String.ofList (partBetween text.toList start stop)))
  | _ => .error (refuse "slice" arguments 0 .arrayOrText)

/-! ## Questions -/

/-- Whether a text occurs in another one. -/
def occursIn (needle : List Char) : List Char → Bool
  | [] => needle.isEmpty
  | c :: rest => needle.isPrefixOf (c :: rest) || occursIn needle rest

/-- Whether an item is in an array, or a text in a text. -/
def contains (arguments : List Value) : Except HelperFault Value :=
  let needle := argument arguments 1
  match argument arguments 0 with
  | .array items => .ok (.bool (items.any (·.equals needle)))
  | .text text => .ok (.bool (occursIn needle.render.toList text.toList))
  | _ => .error (refuse "contains" arguments 0 .arrayOrText)

/-- The number of items, entries or characters. -/
def len (arguments : List Value) : Except HelperFault Value :=
  match argument arguments 0 with
  | .array items => .ok (.ofNat items.length)
  | .object entries => .ok (.ofNat entries.length)
  | .text text => .ok (.ofNat text.toList.length)
  | _ => .error (refuse "len" arguments 0 .collection)

/-! ## Progressions -/

/-- The numbers from `current` in steps, at most `fuel` of them, while they have not
passed the end. -/
def progressionFrom (step stop : Number) : Nat → Number → List Number
  | 0, _ => []
  | fuel + 1, current =>
    let isInside :=
      if step.isNegative then stop.lessEqual current else current.lessEqual stop
    if isInside then current :: progressionFrom step stop fuel (current + step) else []

/-- Three finite numbers as integers in a common unit. -/
def inCommonUnit? (a b c : Number) : Option (Int × Int × Int) :=
  match a, b, c with
  | .finite s m e _, .finite s' m' e' _, .finite s'' m'' e'' _ =>
    let unit := min e (min e' e'')
    some (Number.inUnits s m e unit, Number.inUnits s' m' e' unit,
      Number.inUnits s'' m'' e'' unit)
  | _, _, _ => none

/-- A bound on the length of a progression.  Rounding may shorten a step to no less
than half of it. -/
def progressionBound (start stop step : Number) : Nat :=
  match inCommonUnit? start stop step with
  | some (start, stop, step) => 2 * ((stop - start).natAbs / step.natAbs) + 2
  | none => 0

/-- The numbers from `start` to `stop` in steps. -/
def progression (start stop step : Number) : List Number :=
  progressionFrom step stop (progressionBound start stop step) start

/-- The bounds and the step of a progression.  One bound alone is the last, and the
first is then one; the step is one if it is not given. -/
def progressionArguments (arguments : List Value) :
    Except HelperFault (Number × Number × Number) := do
  let (start, stop) ← match argument arguments 1 with
    | .undefined => do
      let stop ← numberArgument "seq" arguments 0
      .ok (Number.ofInt 1, stop)
    | _ => do
      let start ← numberArgument "seq" arguments 0
      let stop ← numberArgument "seq" arguments 1
      .ok (start, stop)
  let step ← optionalNumber? "seq" arguments 2
  .ok (start, stop, numberOr (Number.ofInt 1) step)

/-- Whether a number is finite. -/
def isFinite (n : Number) : Bool :=
  n.truncate?.isSome

/-- An array of numbers in steps. -/
def seq (arguments : List Value) : Except HelperFault Value := do
  let (start, stop, step) ← progressionArguments arguments
  if step.isZero || !isFinite step || !isFinite start || !isFinite stop then
    .error .endlessSequence
  else .ok (.array ((progression start stop step).map .number))

end TemplateLang.Helper
