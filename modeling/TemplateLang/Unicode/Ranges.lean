/-!
# Tables of code points

Properties of characters are given as tables: of ranges of code points, of runs
that take every code point or every second one, and of runs that are all moved by
the same distance.
-/

namespace TemplateLang.Unicode

/-- Whether a code point lies in one of the ranges. -/
def inRanges (ranges : List (Nat × Nat)) (code : Nat) : Bool :=
  ranges.any fun (first, last) => first ≤ code && code ≤ last

/-- The code points from `first` to `last` in steps of `step`. -/
structure Run where
  first : Nat
  last : Nat
  step : Nat
deriving DecidableEq, Repr

/-- Whether a code point belongs to a run. -/
def Run.holds (run : Run) (code : Nat) : Bool :=
  run.first ≤ code && code ≤ run.last && (code - run.first) % run.step = 0

/-- Whether a code point belongs to one of the runs. -/
def inRuns (runs : List Run) (code : Nat) : Bool :=
  runs.any (·.holds code)

/-- A run of code points that are mapped by adding `distance`. -/
structure Move where
  first : Nat
  last : Nat
  step : Nat
  distance : Int
deriving DecidableEq, Repr

/-- The code points that a move changes. -/
def Move.source (move : Move) : Run :=
  ⟨move.first, move.last, move.step⟩

/-- The code point that a table of moves gives; one in no run stays. -/
def applyMoves (moves : List Move) (code : Nat) : Nat :=
  match moves.find? (·.source.holds code) with
  | some move => ((code : Int) + move.distance).toNat
  | none => code

/-- The code points that a table of moves takes to a given one, itself left
out. -/
def preimages (moves : List Move) (code : Nat) : List Nat :=
  moves.filterMap fun move =>
    let origin := ((code : Int) - move.distance).toNat
    if move.source.holds origin && applyMoves moves origin = code && origin != code then
      some origin
    else none

end TemplateLang.Unicode
