/-!
A template declares fields: a name, under which the body refers to the value, and a type, which
is carried along as written.
-/

namespace Stencil

structure Field where
  name : String
  type : String
deriving DecidableEq, Repr, Inhabited

/-- A compiled template: the name of its class, its fields in the order of the header, and its
body as a format string. -/
structure TemplateClass where
  name : String
  fields : List Field
  body : String
deriving DecidableEq, Repr, Inhabited

def TemplateClass.fieldNames (template : TemplateClass) : List String :=
  template.fields.map (·.name)

end Stencil
