import Stencil.ClassSource.Builtin
import Stencil.ClassSource.Check
import Stencil.ClassSource.Instance
import Stencil.ClassSource.Literal
import Stencil.Text.Compatibility

/-!
What generated source means when it is run. Loading it binds one class for each class statement, in
a scope inside another class as well as at the top. A class of a template is constructed with one
argument for each field, and rendering fills the arguments into its body.

Names are compared in a form of their own, except within literals. Those that begin with two
underscores and do not end with two are private to the class around them: the class name without
its underscores at the front becomes part of them.
-/

namespace Stencil

/-- The form of a name inside the class `className`. -/
def privateName (className name : String) : String :=
  let owner := className.toList.dropWhile (· == '_')
  let isPrivate := name.startsWith "__" && !name.endsWith "__"
  if isPrivate && !owner.isEmpty then .ofList ('_' :: owner) ++ name else name

example : privateName "_Page" "__a" = "_Page__a" := by decide +kernel

example : privateName "Page" "__a__" = "__a__" := by decide +kernel

/-! ## Classes -/

/-- A class that a template became. The names of its fields are in the form that they have inside
it; `qualified` is its own name behind those of the classes around it. -/
structure LoadedTemplate where
  name : String
  qualified : String
  fields : List LoadedField
  body : String
deriving DecidableEq, Repr

inductive LoadedClass where
  | template (template : LoadedTemplate)
  | scope (name : String) (members : List (String × LoadedClass))
deriving Repr

def LoadedClass.name : LoadedClass → String
  | .template loaded => loaded.name
  | .scope name _ => name

/-- What keeps source from being loaded. -/
inductive LoadError where
  | refused (fault : SyntaxFault)
  | duplicateParameter (name : String)
  /-- A name that is bound to a constant for good. -/
  | constantName (name : String)
  | conflictingSlot (slot : String)
deriving DecidableEq, Repr

def LoadError.message : LoadError → String
  | refused fault => fault.message
  | duplicateParameter name => s!"duplicate argument '{name}' in function definition"
  | constantName name => s!"cannot assign to {name}"
  | conflictingSlot slot => s!"'{slot}' in __slots__ conflicts with class variable"

/-- The form of a name of source in which it is compared. -/
def sourceName (name : String) : String := Compatibility.normalForm (toIdentifier name)

def qualify (around name : String) : String :=
  if around == "" then name else around ++ "." ++ name

def loadField (className : String) (field : Field) : LoadedField where
  slot := privateName className (toIdentifier field.name)
  name := privateName className (sourceName field.name)

def loadTemplate (around : String) (template : TemplateClass) : LoadedTemplate :=
  let name := sourceName template.name
  { name
    qualified := qualify around name
    fields := template.fields.map (loadField name)
    body := template.body }

mutual

/-- The classes of a scope under the names by which they are bound at the top of a module. -/
def loadMembers (around : String) : Scope → List (String × LoadedClass)
  | ⟨_, types, children⟩ =>
      (types.map fun template =>
        let loaded := loadTemplate around template
        (loaded.name, .template loaded)) ++ loadChildren around children

def loadChildren (around : String) : List (String × Scope) → List (String × LoadedClass)
  | [] => []
  | (childName, child) :: later =>
      let name := sourceName childName
      let members := (loadMembers (qualify around name) child).map fun (member, loaded) =>
        (privateName name member, loaded)
      (name, .scope name members) :: loadChildren around later

end

/-! ## Loading -/

/-- The first name whose private form is that of one before it. -/
def firstDuplicate? (className : String) (seen : List String) : List String → Option String
  | [] => none
  | name :: later =>
      let form := privateName className name
      if seen.contains form then some name else firstDuplicate? className (form :: seen) later

/-- The first parameter of a constructor that has the name of another or of the receiver. -/
def duplicateParameter? (template : TemplateClass) : Option String :=
  firstDuplicate? (sourceName template.name) ["self"] (template.fieldNames.map sourceName)

def conflictingSlot? (template : TemplateClass) : Option String :=
  let loaded := loadTemplate "" template
  (loaded.fields.map (·.slot)).find? Attribute.conflictingSlots.contains

/-- The name that stands for a constant. -/
def constantName : String := "__debug__"

def bindsConstant (name : String) : Bool := sourceName name == constantName

/-- The templates of a tree in the order in which their classes are in the source. -/
def templatesOf (scope : Scope) : List TemplateClass :=
  scope.walk.flatMap fun (_, inner) => inner.types

/-- The names that the source of a tree binds to classes and to fields. -/
def boundNames (scope : Scope) : List String :=
  (scope.walk.flatMap fun (_, inner) => inner.children.map (·.1)) ++
    (templatesOf scope).flatMap fun template => template.name :: template.fieldNames

/-- What keeps the source of a tree from being loaded: first what a syntax check would refuse, then
what the meaning of names forbids, and last what the making of classes runs into. -/
def loadError? (scope : Scope) : Option LoadError :=
  match sourceError? scope with
  | some error => some (.refused error.fault)
  | none =>
      match (templatesOf scope).findSome? duplicateParameter? with
      | some name => some (.duplicateParameter name)
      | none =>
          if (boundNames scope).any bindsConstant then some (.constantName constantName)
          else ((templatesOf scope).findSome? conflictingSlot?).map .conflictingSlot

/-- Runs the source of a tree of scopes. -/
def loadModule (scope : Scope) : Except LoadError (List (String × LoadedClass)) :=
  match loadError? scope with
  | some error => .error error
  | none => .ok (loadMembers "" scope)

/-- Of classes that are bound to one name, the last one has it. -/
def boundTo? (name : String) (members : List (String × LoadedClass)) : Option LoadedClass :=
  (members.reverse.find? (·.1 == name)).map (·.2)

/-! ## Rendering -/

inductive RenderError where
  /-- A call of something of this kind, which cannot be called. -/
  | notCallable (kind : String)
  | unsettable (error : AttributeError)
  | missingArguments (qualified : String) (parameters : List String)
  | surplusArguments (qualified : String) (taken given : Nat)
  | unboundName (name : String)
  /-- The literal of a body that does not read. -/
  | brokenBody (qualified : String)
deriving DecidableEq, Repr

/-- Names as a list in running text. -/
def enumerate (names : List String) : String :=
  let quoted := names.map fun name => "'" ++ name ++ "'"
  match quoted with
  | [first, second] => first ++ " and " ++ second
  | _ =>
      if quoted.length ≤ 1 then String.join quoted
      else joinTexts ", " quoted.dropLast ++ ", and " ++ quoted.getLast?.getD ""

example : enumerate ["a", "b", "c"] = "'a', 'b', and 'c'" := by decide

def plural (count : Nat) : String := if count == 1 then "" else "s"

def RenderError.message : RenderError → String
  | notCallable kind => s!"'{kind}' object is not callable"
  | unsettable error => error.message
  | missingArguments qualified parameters =>
      s!"{qualified}.__init__() missing {parameters.length} required positional " ++
        s!"argument{plural parameters.length}: {enumerate parameters}"
  | surplusArguments qualified taken given =>
      s!"{qualified}.__init__() takes {taken} positional argument{plural taken} " ++
        s!"but {given} were given"
  | unboundName name => s!"name '{name}' is not defined"
  | brokenBody qualified => s!"{qualified}.render() has no readable body"

namespace LoadedTemplate

def slots (template : LoadedTemplate) : List String := template.fields.map (·.slot)

/-- The value of each field, by its name. The receiver counts among the arguments. -/
def bindArguments (template : LoadedTemplate) (arguments : List Argument) :
    Except RenderError (List (String × Argument)) :=
  let names := template.fields.map (·.name)
  if names.length < arguments.length then
    .error (.surplusArguments template.qualified (names.length + 1) (arguments.length + 1))
  else if arguments.length < names.length then
    .error (.missingArguments template.qualified (names.drop arguments.length))
  else .ok (names.zip arguments)

/-- An instance: the value of each field, and of nothing else. A slot by the name of the method
that makes instances is in the place of that method. -/
def construct (template : LoadedTemplate) (arguments : List Argument) :
    Except RenderError (List (String × Argument)) := do
  if template.slots.contains "__new__" then throw (.notCallable "member_descriptor")
  let values ← template.bindArguments arguments
  values.forM fun (name, value) =>
    (Attribute.set template.name template.slots name value).mapError .unsettable
  return values

/-- How the value of a name is shown in the body: that of a field, of the class around the body, of
a class at the top of the module, or of a name that is bound everywhere. -/
def shown? (template : LoadedTemplate) (members : List (String × LoadedClass))
    (values : List (String × Argument)) (name : String) : Option String :=
  match values.find? (·.1 == name), boundTo? name members with
  | some (_, value), _ => some value.format
  | none, bound? =>
      if name == "__class__" then some s!"<class '{template.name}'>"
      else match bound? with
        | some other => some s!"<class '{other.name}'>"
        | none => Builtin.text? name

/-- The form of a name inside the body. -/
def innerName (template : LoadedTemplate) (name : List Char) : String :=
  privateName template.name (Compatibility.normalForm (.ofList name))

/-- The body with the values of an instance. -/
def fill (template : LoadedTemplate) (members : List (String × LoadedClass))
    (values : List (String × Argument)) : Except RenderError String :=
  match BodyLiteral.read? (bodyLiteral template.body).toList with
  | none => .error (.brokenBody template.qualified)
  | some pieces =>
      let value? (name : List Char) : Option (List Char) :=
        (template.shown? members values (template.innerName name)).map String.toList
      match Piece.fill value? pieces with
      | .error name => .error (.unboundName (template.innerName name))
      | .ok text => .ok (.ofList text)

/-- Constructs an instance and renders it. A slot by the name of the method that looks attributes
up is in the place of that method, so its value is called for the first of them. -/
def render (template : LoadedTemplate) (members : List (String × LoadedClass))
    (arguments : List Argument) : Except RenderError String := do
  let values ← template.construct arguments
  match (template.slots.zip arguments).find? (·.1 == "__getattribute__") with
  | some (_, value) => .error (.notCallable value.kind)
  | none => template.fill members values

end LoadedTemplate

end Stencil
