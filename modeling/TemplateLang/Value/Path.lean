import TemplateLang.Number.Natural
import TemplateLang.Value.Text

/-!
# Members of values

Keys select the entries of objects and the items of arrays.  Reading a missing
member gives the empty text.  A slot is what a list of keys leads to; changing the
number in a slot rebuilds the values on the way and leaves the rest alone.
-/

namespace TemplateLang

/-- A key of a member. -/
inductive Key where
  | name (name : String)
  | index (index : Number)
deriving DecidableEq, Repr

namespace Key

/-- The key of an object's entry. -/
def text : Key → String
  | name word => word
  | index place => place.text

/-- The position of an array's item. -/
def position? : Key → Option Nat
  | name word => naturalBelow? sizeBound word.toList
  | index place =>
    match place.toInt? with
    | some n => if 0 ≤ n then some n.toNat else none
    | none => none

/-- Names that are never read: those of prototypes, and those in double
underscores. -/
def isForbidden (name : String) : Bool :=
  name = "__proto__" || name = "prototype" || name = "constructor" ||
    (4 < name.utf8ByteSize && ['_', '_'].isPrefixOf name.toList &&
      ['_', '_'].isSuffixOf name.toList)

end Key

namespace Value

/-- The member that a key selects. -/
def child? (value : Value) (key : Key) : Option Value :=
  match value with
  | object entries => Table.get? entries key.text
  | array items => key.position?.bind fun position => items[position]?
  | _ => none

/-- A value with a member replaced. -/
def setChild (value : Value) (key : Key) (child : Value) : Value :=
  match value with
  | object entries => object (Table.insert entries key.text child)
  | array items =>
    match key.position? with
    | some position => array (items.set position child)
    | none => array items
  | value => value

/-- Whether a value has members. -/
def isContainer : Value → Bool
  | object _ | array _ => true
  | _ => false

/-- Read a member.  A value without members has none to read. -/
def readMember? (value : Value) (key : Key) : Option Value :=
  if value.isContainer then some ((value.child? key).getD (text "")) else none

/-- Why a slot cannot be changed. -/
inductive SlotFault where
  | notANumber (typeName : String)
  | missing
  | unreadable (typeName : String) (key : Key)
deriving DecidableEq, Repr

/-- Change the number in the slot that keys lead to: the number that was there, and
the whole value afterwards. -/
def changeSlot (change : Number → Number) : Value → List Key → Except SlotFault (Number × Value)
  | number n, [] => .ok (n, number (change n))
  | value, [] => .error (.notANumber value.typeName)
  | value, key :: rest =>
    match value.child? key with
    | some child => do
      let (old, child) ← changeSlot change child rest
      .ok (old, value.setChild key child)
    | none =>
      if value.isContainer then
        match rest with
        | next :: _ => .error (.unreadable undefined.typeName next)
        | [] => .error .missing
      else .error (.unreadable value.typeName key)

end Value

end TemplateLang
