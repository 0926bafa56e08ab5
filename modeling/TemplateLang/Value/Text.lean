import TemplateLang.Json.Writer

/-!
# The text of values

`display` is the text that a value has inside other texts, and `render` the text
that it writes to the output, where `undefined`, `null` and `false` write
nothing.  Arrays are their rendered items with commas between, objects their JSON
text.
-/

namespace TemplateLang.Value

/-- Values that write nothing to the output. -/
def isSilent : Value → Bool
  | undefined | null | bool false => true
  | _ => false

mutual

/-- The text of a value. -/
def display : Value → String
  | undefined => "undefined"
  | null => "null"
  | bool value => if value then "true" else "false"
  | number value => value.text
  | text value => value
  | array items => displayItems items
  | object entries => Json.write (object entries)

/-- The items of an array with commas between.  Silent ones leave their place
empty. -/
def displayItems : List Value → String
  | [] => ""
  | [item] => if item.isSilent then "" else item.display
  | item :: rest => (if item.isSilent then "" else item.display) ++ "," ++ displayItems rest

end

/-- The text that a value writes to the output. -/
def render (value : Value) : String :=
  if value.isSilent then "" else value.display

end TemplateLang.Value
