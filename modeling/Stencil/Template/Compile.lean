import Stencil.Event
import Stencil.Template.Header
import Stencil.Template.Minify
import Stencil.Template.Placeholder
import Stencil.Template.Strip

/-!
Compilation of one document: its header gives the fields, and the rest of it, minified or not,
becomes the format string of the body.
-/

namespace Stencil

/-- The body of a document with its placeholders as they are written. -/
def documentBody (document : String) (minified : Bool) : String :=
  if minified then minify (stripHeader document) else stripHeader document

def compileTemplate (document name : String) (minified : Bool) : Run HeaderError TemplateClass := do
  let fields ← Run.ofExcept (headerFields document)
  let template : TemplateClass :=
    { name, fields, body := substitute (documentBody document minified) }
  Run.report (.documentCompiled name template.fieldNames minified)
  return template

end Stencil
