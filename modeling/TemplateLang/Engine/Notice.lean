import TemplateLang.Engine.Error

/-!
# Notices

Errors in the shape that a tool takes which draws its reports itself: a message with
the source and marks on it.  An error that has diagnostics gives a notice for each of
them; every other one gives a notice without a source.
-/

namespace TemplateLang

/-- A marked part of a source, which may have a message. -/
structure Mark where
  offset : Nat
  length : Nat
  message : Option String
  isPrimary : Bool
deriving DecidableEq, Repr

/-- The mark of a label. -/
def Label.mark (label : Label) : Mark where
  offset := label.span.start
  length := label.span.length
  message := if label.message.isEmpty then none else some label.message
  isPrimary := label.isPrimary

/-- What a tool draws for one problem. -/
structure Notice where
  message : String
  code : Option String
  help : Option String
  source : Option (List Char)
  marks : List Mark
deriving DecidableEq, Repr

/-- The notice of a diagnostic on a source. -/
def Diagnostic.notice (source : List Char) (diagnostic : Diagnostic) : Notice where
  message := diagnostic.message
  code := diagnostic.code.map Code.text
  help := diagnostic.help
  source := some source
  marks := diagnostic.labels.map Label.mark

/-- The notices of an error. -/
def TemplateError.notices (error : TemplateError) : List Notice :=
  match error with
  | .refused diagnostics source => diagnostics.map (·.notice source)
  | .failed failure source => [failure.diagnostic.notice source]
  | .file _ | .config _ => [⟨error.message, error.plainClass?, none, none, []⟩]

end TemplateLang
