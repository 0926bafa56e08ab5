import TemplateLang.Unicode.Folding

/-!
# Sets of characters

A set of characters is given by ranges of code points, in any order.  Complements
are taken of sorted ranges that do not touch.
-/

namespace TemplateLang.Pattern

/-- A set of characters. -/
structure CharSet where
  ranges : List (Nat × Nat)
deriving DecidableEq, Repr

namespace CharSet

/-- The greatest code point. -/
def maxCode : Nat :=
  0x10FFFF

def empty : CharSet :=
  ⟨[]⟩

def ofCodes (codes : List Nat) : CharSet :=
  ⟨codes.map fun code => (code, code)⟩

def single (c : Char) : CharSet :=
  ofCodes [c.toNat]

def ofRange (first last : Char) : CharSet :=
  ⟨[(first.toNat, last.toNat)]⟩

/-- The code points of a run, as ranges. -/
def rangesOfRun (run : Unicode.Run) : List (Nat × Nat) :=
  if run.step = 1 then [(run.first, run.last)]
  else (List.range ((run.last - run.first) / run.step + 1)).map fun i =>
    (run.first + i * run.step, run.first + i * run.step)

def ofRuns (runs : List Unicode.Run) : CharSet :=
  ⟨runs.flatMap rangesOfRun⟩

/-- Whether a code point is in a set. -/
def holdsCode (set : CharSet) (code : Nat) : Bool :=
  Unicode.inRanges set.ranges code

/-- Whether a character is in a set. -/
def holds (set : CharSet) (c : Char) : Bool :=
  set.holdsCode c.toNat

def union (a b : CharSet) : CharSet :=
  ⟨a.ranges ++ b.ranges⟩

/-- Sorted ranges with those that touch made one; `last` is the range before. -/
def mergeAfter (last : Nat × Nat) : List (Nat × Nat) → List (Nat × Nat)
  | [] => [last]
  | next :: rest =>
    if next.1 ≤ last.2 + 1 then mergeAfter (last.1, max last.2 next.2) rest
    else last :: mergeAfter next rest

/-- The same set in sorted ranges that do not touch. -/
def normalize (set : CharSet) : CharSet :=
  match set.ranges.mergeSort fun a b => a.1 ≤ b.1 with
  | [] => empty
  | first :: rest => ⟨mergeAfter first rest⟩

/-- The gaps between sorted ranges, from `start` to `limit`. -/
def gaps (limit : Nat) : Nat → List (Nat × Nat) → List (Nat × Nat)
  | start, [] => if start ≤ limit then [(start, limit)] else []
  | start, (first, last) :: rest =>
    if start < first then (start, first - 1) :: gaps limit (last + 1) rest
    else gaps limit (last + 1) rest

/-- The characters up to a limit that are not in a set. -/
def complement (set : CharSet) (limit : Nat) : CharSet :=
  ⟨gaps limit 0 set.normalize.ranges⟩

def intersection (a b : CharSet) : CharSet :=
  ((a.complement maxCode).union (b.complement maxCode)).complement maxCode

def difference (a b : CharSet) : CharSet :=
  a.intersection (b.complement maxCode)

def symmetricDifference (a b : CharSet) : CharSet :=
  (a.union b).difference (a.intersection b)

/-- Whether all characters of a set are below 128. -/
def isAscii (set : CharSet) : Bool :=
  set.ranges.all (·.2 < 128)

/-- The characters that fold to another one, with that. -/
def foldPairs : List (Nat × Nat) :=
  Unicode.foldMoves.flatMap fun move =>
    (rangesOfRun move.source).flatMap fun (first, last) =>
      (List.range (last + 1 - first)).map fun i =>
        (first + i, ((first + i : Nat) + move.distance).toNat)

/-- A set with all characters that differ from one of it only in case. -/
def closeUnderCase (set : CharSet) : CharSet :=
  let reached := ofCodes (foldPairs.filterMap fun (code, folded) =>
    if set.holdsCode code || set.holdsCode folded then some folded else none)
  let origins := ofCodes (foldPairs.filterMap fun (code, folded) =>
    if reached.holdsCode folded then some code else none)
  (set.union (reached.union origins)).normalize

/-- A set with both cases of the letters from a to z in it. -/
def closeUnderAsciiCase (set : CharSet) : CharSet :=
  let letters := (List.range 26).flatMap fun i =>
    if set.holdsCode (0x41 + i) || set.holdsCode (0x61 + i) then [0x41 + i, 0x61 + i] else []
  (set.union (ofCodes letters)).normalize

end CharSet

end TemplateLang.Pattern
