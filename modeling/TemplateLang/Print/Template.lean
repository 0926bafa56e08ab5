import TemplateLang.Print.Expression
import TemplateLang.Syntax.Template

/-!
# The canonical text of templates

Raw text is printed as it is.  Inside a tag one blank follows the opening mark and
one precedes the closing mark.  A tag with nothing but one comment over several
lines keeps its marks close to the comment.
-/

namespace TemplateLang

namespace Print

/-- The comments of a tag, a blank before each. -/
def tagComments (tag : Tag) : String :=
  String.join (tag.comments.map fun c => " " ++ comment c)

/-- An opening mark and its comments. -/
def opening (tag : Tag) : String :=
  tag.text ++ tagComments tag

/-- The comments before a closing mark, and the mark. -/
def closing (tag : Tag) : String :=
  tagComments tag ++ " " ++ tag.text

/-- A tag without a statement. -/
def emptyTag (open' close : Tag) : String :=
  match open'.comments ++ close.comments with
  | [only] =>
    if only.isMultiline then open'.text ++ comment only ++ close.text
    else opening open' ++ closing close
  | _ => opening open' ++ closing close

/-- The opening mark and word of the tag that ends a block. -/
def blockEnd (tag : Tag) : String :=
  opening tag ++ " end"

mutual

/-- An element. -/
def element : Element → String
  | .raw text _ => text
  | .tag open' statement close _ =>
    match statement with
    | .empty => emptyTag open' close
    | .expression expr => opening open' ++ " " ++ expression true expr ++ closing close
    | .assign target value _ =>
      opening open' ++ " " ++ target.name ++ " := " ++ expression true value ++ closing close
    | .branch b => opening open' ++ " " ++ branch b ++ closing close
    | .loop value index iterable headClose body endOpen _ =>
      let index := match index with
        | some index => ", " ++ index.name
        | none => ""
      opening open' ++ " for " ++ value.name ++ index ++ " in " ++ expression true iterable ++
        closing headClose ++ elements body ++ blockEnd endOpen ++ closing close
    | .breakLoop _ => opening open' ++ " break" ++ closing close
    | .continueLoop _ => opening open' ++ " continue" ++ closing close

/-- A condition from its `if` to the word that ends it. -/
def branch : Branch → String
  | .mk test close body rest _ =>
    "if " ++ expression true test ++ closing close ++ elements body ++ alternate rest

/-- What comes after the body of a condition. -/
def alternate : Alternate → String
  | .done endOpen => blockEnd endOpen
  | .otherwise elseOpen elseClose body endOpen =>
    opening elseOpen ++ " else" ++ closing elseClose ++ elements body ++ blockEnd endOpen
  | .chain elseOpen next => opening elseOpen ++ " else " ++ branch next

/-- Elements one after the other. -/
def elements : List Element → String
  | [] => ""
  | first :: rest => element first ++ elements rest

end

end Print

/-- The canonical text of a template. -/
def Template.print (template : Template) : String :=
  Print.elements template.elements

end TemplateLang
