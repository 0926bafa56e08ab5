import TemplateLang.Source.Span
import TemplateLang.Report.Code

/-!
# Diagnostics

A diagnostic is a message with labelled spans of the source, and perhaps a code
and a line of help.  A reader refuses a text with a nonempty list of them.
-/

namespace TemplateLang

/-- How much a diagnostic weighs. -/
inductive Severity where
  | error
  | warning
deriving DecidableEq, Repr

/-- The word that opens a report. -/
def Severity.word : Severity → String
  | error => "error"
  | warning => "warning"

/-- A span of the source with a message.  The primary labels mark the problem
itself; the others point at related places. -/
structure Label where
  span : Span
  message : String
  isPrimary : Bool
deriving DecidableEq, Repr

/-- A problem in a source text. -/
structure Diagnostic where
  severity : Severity
  code : Option Code
  message : String
  labels : List Label
  help : Option String
deriving DecidableEq, Repr

namespace Diagnostic

/-- The error of a class at a place.  Its label says what the class stands for. -/
def ofCode (code : Code) (message : String) (span : Span) (help : Option String) :
    Diagnostic where
  severity := .error
  code := some code
  message := message
  labels := [⟨span, code.description, true⟩]
  help := help

/-- The first primary label. -/
def primaryLabel? (diagnostic : Diagnostic) : Option Label :=
  diagnostic.labels.find? (·.isPrimary)

/-- The first line of a report: severity, code and message. -/
def headline (diagnostic : Diagnostic) : String :=
  let code := match diagnostic.code with
    | some code => "[" ++ code.text ++ "]"
    | none => ""
  diagnostic.severity.word ++ code ++ ": " ++ diagnostic.message

end Diagnostic

/-- A list of diagnostics in one line: the first headline, and how many more
there are. -/
def summarize : List Diagnostic → String
  | [] => ""
  | [only] => only.headline
  | first :: others => s!"{first.headline} (+{others.length} more)"

end TemplateLang
