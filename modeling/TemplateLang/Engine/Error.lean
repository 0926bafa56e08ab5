import TemplateLang.Eval.Fault
import TemplateLang.Files.Tree
import TemplateLang.Report.Snippet

/-!
# Errors of templates

How the work on a template ends without a result: the text is refused, its evaluation
fails, a file is not read or written, or the configuration cannot be used.
-/

namespace TemplateLang

/-- Why a configuration or a file of variables is not used. -/
inductive ConfigFault where
  | missing (path : String)
  | malformed (path : String)
  | invalid (reason : String)
deriving DecidableEq, Repr

/-- What a fault of the configuration says. -/
def ConfigFault.message : ConfigFault → String
  | missing path => "Missing configuration file: " ++ path
  | malformed path => "Failed to parse " ++ path
  | invalid reason => "Invalid configuration: " ++ reason

/-- An error, with the source that its diagnostics point into. -/
inductive TemplateError where
  | refused (diagnostics : List Diagnostic) (source : List Char)
  | failed (error : EvalError) (source : List Char)
  | file (error : FileError)
  | config (fault : ConfigFault)

namespace TemplateError

/-- The diagnostics of an error. -/
def diagnostics : TemplateError → List Diagnostic
  | refused diagnostics _ => diagnostics
  | failed error _ => [error.diagnostic]
  | file _ | config _ => []

/-- An error in one line. -/
def message : TemplateError → String
  | refused diagnostics _ => summarize diagnostics
  | failed error _ => error.diagnostic.headline
  | file error => "I/O error: " ++ error.message
  | config fault => "Configuration error: " ++ fault.message

/-- An error with the lines of the source that it points at. -/
def report : TemplateError → String
  | refused diagnostics source => reportAll diagnostics source
  | failed error source => error.diagnostic.report source
  | error => error.message

/-- The class of an error that has no diagnostics of its own. -/
def plainClass? : TemplateError → Option String
  | file _ => some "stencil::io"
  | config _ => some "stencil::config"
  | _ => none

end TemplateError

end TemplateLang
