import TemplateLang.Helper.Fault
import TemplateLang.Value.Text

/-!
# Arguments of helpers

Helpers take any number of arguments.  One that is not given is `undefined`, and so
writes nothing where a text is asked for.
-/

namespace TemplateLang.Helper

/-- The argument at a position, counted from zero. -/
def argument (arguments : List Value) (position : Nat) : Value :=
  (arguments[position]?).getD .undefined

/-- The text that an argument writes. -/
def textArgument (arguments : List Value) (position : Nat) : String :=
  (argument arguments position).render

/-- The fault of an argument that is not as expected. -/
def refuse (helper : String) (arguments : List Value) (position : Nat) (expected : Expected) :
    HelperFault :=
  .argument helper (position + 1) expected (argument arguments position).typeName

/-- An argument that must be a number. -/
def numberArgument (helper : String) (arguments : List Value) (position : Nat) :
    Except HelperFault Number :=
  match argument arguments position with
  | .number n => .ok n
  | _ => .error (refuse helper arguments position .number)

/-- An argument that must be a number if it is given. -/
def optionalNumber? (helper : String) (arguments : List Value) (position : Nat) :
    Except HelperFault (Option Number) :=
  match argument arguments position with
  | .undefined => .ok none
  | .number n => .ok (some n)
  | _ => .error (refuse helper arguments position .number)

/-- A number that stands for itself if it is not given. -/
def numberOr (default : Number) (given : Option Number) : Number :=
  given.getD default

/-- The position that a number is cut to, toward zero and between zero and a limit.
NaN is cut to zero. -/
def clampTo (limit : Nat) (n : Number) : Nat :=
  match n with
  | .nan => 0
  | .infinite isNegative => if isNegative then 0 else limit
  | n =>
    match n.truncate? with
    | some position => min position.toNat limit
    | none => 0

end TemplateLang.Helper
