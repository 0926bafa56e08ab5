import TemplateLang.Number.Decimal
import TemplateLang.Value.Table

/-!
# Runtime values

What variables hold, what expressions yield and what helpers take and return:
the values of data documents together with `undefined`.  Objects keep the order
in which their keys were written.
-/

namespace TemplateLang

/-- A runtime value. -/
inductive Value where
  | undefined
  | null
  | bool (value : Bool)
  | number (value : Number)
  | text (value : String)
  | array (items : List Value)
  | object (entries : List (String × Value))
deriving Repr

namespace Value

instance : Inhabited Value :=
  ⟨undefined⟩

/-- The name of a value's type, as messages give it. -/
def typeName : Value → String
  | undefined => "undefined"
  | null => "null"
  | bool _ => "boolean"
  | number _ => "number"
  | text _ => "string"
  | array _ => "array"
  | object _ => "object"

/-- Whether a condition holds: `undefined`, `null`, `false`, zero, NaN and the
empty text do not, all else does. -/
def isTruthy : Value → Bool
  | undefined | null => false
  | bool value => value
  | number value => !value.isZero && !value.isNaN
  | text value => !value.isEmpty
  | array _ | object _ => true

def asText? : Value → Option String
  | text value => some value
  | _ => none

def asNumber? : Value → Option Number
  | number value => some value
  | _ => none

def asArray? : Value → Option (List Value)
  | array items => some items
  | _ => none

def asObject? : Value → Option (Table Value)
  | object entries => some entries
  | _ => none

/-- The number value of a natural number. -/
def ofNat (n : Nat) : Value :=
  number (Number.ofInt n)

/-! ## Equality -/

mutual

/-- Equality of values.  Values of different types differ, NaN differs from
itself, arrays are equal element by element, and objects when they have the same
number of entries and each entry of the first has an equal one in the second. -/
def equals : Value → Value → Bool
  | undefined, undefined => true
  | null, null => true
  | bool a, bool b => a == b
  | number a, number b => a.equals b
  | text a, text b => a == b
  | array a, array b => equalItems a b
  | object a, object b => a.length == b.length && equalEntries a b
  | _, _ => false

/-- Two lists of values are equal element by element. -/
def equalItems : List Value → List Value → Bool
  | [], [] => true
  | a :: as, b :: bs => a.equals b && equalItems as bs
  | _, _ => false

/-- Each entry has an equal one, under the same key, in a table. -/
def equalEntries : List (String × Value) → Table Value → Bool
  | [], _ => true
  | (key, a) :: rest, table =>
    (match Table.get? table key with
      | some b => a.equals b
      | none => false) && equalEntries rest table

end

/-! ## The numbers in a value -/

mutual

/-- The numbers in a value. -/
def numbers : Value → List Number
  | number x => [x]
  | array items => numbersOfItems items
  | object entries => numbersOfEntries entries
  | _ => []

def numbersOfItems : List Value → List Number
  | [] => []
  | item :: rest => item.numbers ++ numbersOfItems rest

def numbersOfEntries : List (String × Value) → List Number
  | [] => []
  | (_, value) :: rest => value.numbers ++ numbersOfEntries rest

end

/-! ## Well-formed values -/

mutual

/-- Every object in a value, at any depth, has distinct keys. -/
def WellFormed : Value → Prop
  | array items => WellFormedItems items
  | object entries => (entries.map (·.1)).Nodup ∧ WellFormedEntries entries
  | _ => True

/-- Every value of a list is well formed. -/
def WellFormedItems : List Value → Prop
  | [] => True
  | item :: rest => item.WellFormed ∧ WellFormedItems rest

/-- The value of every entry is well formed. -/
def WellFormedEntries : List (String × Value) → Prop
  | [] => True
  | (_, value) :: rest => value.WellFormed ∧ WellFormedEntries rest

end

end Value

end TemplateLang
