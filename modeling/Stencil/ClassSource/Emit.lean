import Stencil.ClassSource.Row
import Stencil.Scope
import Stencil.Template.Identifier
import Stencil.Text.Quoted

/-!
The source of generated classes. A class has one slot, one constructor argument and one typed
attribute for each field, and a `render` method that binds the fields to local names and fills
them into its body, which is written as one formatted literal. A scope below the outermost one
becomes a class that holds its members: first its classes, then its child scopes.
-/

namespace Stencil

/-- A field as the generated class names it. -/
structure EmittedField where
  name : String
  type : String

namespace EmittedField

def ofField (field : Field) : EmittedField := ⟨toIdentifier field.name, field.type⟩

def words (field : EmittedField) : List SourceWord :=
  [.name field.name, .type field.type]

def declaration (field : EmittedField) : String := field.name ++ ": " ++ field.type

end EmittedField

/-- The field names as a tuple of texts, which needs a comma after a single one. -/
def slotsLiteral (names : List String) : String :=
  match names.map fun name => "\"" ++ name ++ "\"" with
  | [only] => "(" ++ only ++ ",)"
  | quoted => "(" ++ joinTexts ", " quoted ++ ")"

/-- The body as a formatted literal: braces mean the same in it as in the format string. -/
def bodyLiteral (body : String) : String := "f" ++ Quoted.literal body

def attributeRows (fields : List EmittedField) : List Row :=
  if fields.isEmpty then []
  else .blank :: fields.map fun field => .line 1 field.declaration field.words

def constructorRows (fields : List EmittedField) : List Row :=
  let parameters := fields.map fun field => ", " ++ field.declaration
  .line 1 ("def __init__(self" ++ String.join parameters ++ ") -> None:")
      (fields.flatMap EmittedField.words) ::
    if fields.isEmpty then [.line 2 "pass"]
    else fields.map fun field => .line 2 s!"self.{field.name} = {field.name}" [.name field.name]

def renderRows (fields : List EmittedField) (body : String) : List Row :=
  .line 1 "def render(self) -> str:" ::
    (fields.map fun field => .line 2 s!"{field.name} = self.{field.name}" [.name field.name]) ++
    [.line 2 ("return " ++ bodyLiteral body)]

def classRows (template : TemplateClass) : List Row :=
  let name := toIdentifier template.name
  let fields := template.fields.map EmittedField.ofField
  .line 0 s!"class {name}:" [.name name] ::
    .line 1 ("__slots__ = " ++ slotsLiteral (fields.map (·.name))) ::
    attributeRows fields ++
    .blank :: constructorRows fields ++
    .blank :: renderRows fields template.body

/-- The source of one class. -/
def emitClass (template : TemplateClass) : String :=
  Row.source (classRows template)

/-- The class that a child scope becomes around the blocks of its members. -/
def namespaceRows (name : String) (members : List (List Row)) : List Row :=
  .line 0 s!"class {name}:" [.name name] ::
    (if members.isEmpty then [.line 0 "pass"] else Row.spaced members).map Row.indent

mutual

/-- One block for each member of a scope. -/
def scopeBlocks : Scope → List (List Row)
  | ⟨_, types, children⟩ => types.map classRows ++ childBlocks children

def childBlocks : List (String × Scope) → List (List Row)
  | [] => []
  | (name, child) :: later =>
      namespaceRows (toIdentifier name) (scopeBlocks child) :: childBlocks later

end

def preamble : List Row :=
  ["\"\"\"Generated by typedhtml. Do not edit.\"\"\"", "", "from __future__ import annotations"].map
    fun text => .line 0 text

def moduleRows (scope : Scope) : List Row :=
  preamble ++ (scopeBlocks scope).flatMap fun block => .blank :: .blank :: block

/-- The source of the module that a tree of scopes becomes. -/
def moduleSource (scope : Scope) : String :=
  Row.source (moduleRows scope) ++ "\n"

end Stencil
