import TemplateLang.Engine.Context
import TemplateLang.Toml.Reader

/-!
# Configurations

Delimiters and variables for all templates, and how they are written in a TOML
document: the delimiters as the array `tags` in the table `template`, the variables as
the table `variables`.  What is not written keeps its standard, and other entries say
nothing.
-/

namespace TemplateLang

/-- Delimiters and variables for all templates. -/
structure Config where
  tags : Delimiters
  bindings : Table Value

namespace Config

/-- The configuration when nothing is configured. -/
def standard : Config :=
  ⟨Delimiters.standard, []⟩

/-- Why a configuration should not be used, if there is a reason: a reader could not
tell where tags start or end. -/
def problem? (config : Config) : Option String :=
  if config.tags.opening.isEmpty || config.tags.closing.isEmpty then
    some "Tag delimiters must not be empty"
  else if config.tags.opening = config.tags.closing then
    some ("Open and close tag delimiters must differ (both are \"" ++ config.tags.opening ++
      "\")")
  else none

/-- The delimiters that the first two items of an array are. -/
def tagsOf? : Option Value → Option Delimiters
  | none => some Delimiters.standard
  | some (.array (.text opening :: .text closing :: _)) => some ⟨opening, closing⟩
  | some _ => none

/-- The delimiters of the table `template`.  An array in its place holds the values of
its entries in order. -/
def templateTags? : Option Value → Option Delimiters
  | none => some Delimiters.standard
  | some (.object entries) => tagsOf? (Table.get? entries "tags")
  | some (.array items) => tagsOf? items.head?
  | some _ => none

/-- The variables of the table `variables`. -/
def variablesOf? : Option Value → Option (Table Value)
  | none => some []
  | some (.object entries) => some entries
  | some _ => none

/-- The configuration that a document writes. -/
def read? (document : String) : Option Config := do
  let table ← Toml.read? document
  let tags ← templateTags? (Table.get? table "template")
  let bindings ← variablesOf? (Table.get? table "variables")
  some ⟨tags, bindings⟩

/-- The context that a rendering starts from. -/
def context (config : Config) (directory : String) : Context :=
  Context.create directory ⟨none, some config.tags, config.bindings, []⟩

end Config

end TemplateLang
