import TemplateLang.Text.Trim

/-!
# Output

Output grows piece by piece.  A trim marker at the opening end of a tag takes the
blanks off the end of what was written so far; one at the closing end takes them off
the start of the next piece.
-/

namespace TemplateLang

/-- What was written so far, and whether the next piece loses its leading blanks. -/
structure Output where
  text : String
  trimsNext : Bool
deriving DecidableEq, Repr

namespace Output

/-- Output in which nothing is written. -/
def start (trimsNext : Bool) : Output :=
  ⟨"", trimsNext⟩

/-- Take the blanks off the end, if asked to. -/
def settle (output : Output) (trims : Bool) : String :=
  if trims then Text.trimEnd output.text else output.text

/-- Write a piece, with the trim markers before and after it. -/
def push (output : Output) (piece : String) (trimsBefore trimsAfter : Bool) : Output where
  text := output.settle trimsBefore ++ if output.trimsNext then Text.trimStart piece else piece
  trimsNext := trimsAfter

end Output

end TemplateLang
