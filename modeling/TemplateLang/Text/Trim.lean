import TemplateLang.Unicode.Letters

/-!
# Trimming

Blanks at the ends of a text, and texts without them.
-/

namespace TemplateLang.Text

/-- A text without the blanks that begin it. -/
def dropLeading (text : List Char) : List Char :=
  text.dropWhile Unicode.isBlank

/-- A text without the blanks that end it. -/
def dropTrailing (text : List Char) : List Char :=
  (text.reverse.dropWhile Unicode.isBlank).reverse

/-- A text without the blanks at both ends. -/
def dropOuter (text : List Char) : List Char :=
  dropTrailing (dropLeading text)

def trimStart (text : String) : String :=
  String.ofList (dropLeading text.toList)

def trimEnd (text : String) : String :=
  String.ofList (dropTrailing text.toList)

def trim (text : String) : String :=
  String.ofList (dropOuter text.toList)

end TemplateLang.Text
