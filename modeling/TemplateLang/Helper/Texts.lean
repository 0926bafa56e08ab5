import TemplateLang.Helper.Arguments
import TemplateLang.Pattern.Replace
import TemplateLang.Text.Trim
import TemplateLang.Text.Words

/-!
# Helpers on texts

The conversions of one text, replacing by patterns, and splitting and joining.
-/

namespace TemplateLang.Helper

/-- A conversion of the first argument's text. -/
def converted (convert : List Char → List Char) (arguments : List Value) : Value :=
  .text (String.ofList (convert (textArgument arguments 0).toList))

/-- The program of a pattern. -/
def patternOf (text : String) : Except HelperFault Pattern.Program :=
  match Pattern.read? text with
  | some compiled => .ok compiled.program
  | none => .error (.invalidPattern text)

/-- Replace what matches a pattern. -/
def replace (arguments : List Value) : Except HelperFault Value := do
  let program ← patternOf (textArgument arguments 1)
  .ok (converted (program.replaceAll (textArgument arguments 2).toList) arguments)

/-! ## Splitting and joining -/

/-- The parts of a text between the places of a separator, leftmost places first.
`part` is the part that was begun, last character first, and `skip` counts the
characters of a separator that are still to pass. -/
def splitFrom (separator : List Char) : List Char → Nat → List Char → List (List Char)
  | part, _, [] => [part.reverse]
  | part, skip + 1, _ :: rest => splitFrom separator part skip rest
  | part, 0, c :: rest =>
    if separator.isPrefixOf (c :: rest) then
      part.reverse :: splitFrom separator [] (separator.length - 1) rest
    else splitFrom separator (c :: part) 0 rest

/-- The parts of a text.  An empty separator leaves the single characters. -/
def splitText (separator text : List Char) : List (List Char) :=
  if separator.isEmpty then text.map ([·]) else splitFrom separator [] 0 text

/-- Split a text at a separator. -/
def split (arguments : List Value) : Value :=
  let parts := splitText (textArgument arguments 1).toList (textArgument arguments 0).toList
  .array (parts.map fun part => .text (String.ofList part))

/-- The texts of items with a separator between. -/
def joinTexts (separator : String) (items : List Value) : String :=
  separator.intercalate (items.map Value.render)

/-- Join the texts of an array's items, with commas between if nothing else is
given. -/
def join (arguments : List Value) : Except HelperFault Value :=
  match argument arguments 0 with
  | .array items =>
    let separator := match argument arguments 1 with
      | .undefined => ","
      | other => other.render
    .ok (.text (joinTexts separator items))
  | _ => .error (refuse "join" arguments 0 .array)

end TemplateLang.Helper
