import Stencil.Template.Field

/-!
The tree of scopes that a directory of templates comes to. A scope holds classes and named child
scopes, both in the order in which they were added; the outermost scope has no name.
-/

namespace Stencil

structure Scope where
  name : Option String := none
  types : List TemplateClass := []
  children : List (String × Scope) := []
deriving Repr, Inhabited

namespace Scope

def empty : Scope := {}

def add (scope : Scope) (template : TemplateClass) : Scope :=
  { scope with types := scope.types ++ [template] }

def child? (scope : Scope) (name : String) : Option Scope :=
  (scope.children.find? (·.1 == name)).map (·.2)

/-- The scope with a child of this name, which is new and empty if there was none. -/
def withChild (scope : Scope) (name : String) : Scope :=
  if (scope.child? name).isSome then scope
  else { scope with children := scope.children ++ [(name, { name := some name })] }

def setChild (scope : Scope) (name : String) (child : Scope) : Scope :=
  { scope with
    children := scope.children.map fun (other, old) =>
      if other == name then (other, child) else (other, old) }

/-- The scope at a chain of child names. -/
def at? (scope : Scope) : List String → Option Scope
  | [] => some scope
  | name :: later => (scope.child? name).bind (·.at? later)

/-- Changes the scope at a chain of child names; where the chain leads nowhere, nothing. -/
def updateAt (change : Scope → Scope) (scope : Scope) : List String → Scope
  | [] => change scope
  | name :: later =>
      match scope.child? name with
      | none => scope
      | some child => scope.setChild name (child.updateAt change later)

mutual

/-- Every scope of the tree with the chain of names that leads to it, each before its children. -/
def walk : Scope → List (List String × Scope)
  | ⟨name, types, children⟩ => ([], ⟨name, types, children⟩) :: walkChildren children

def walkChildren : List (String × Scope) → List (List String × Scope)
  | [] => []
  | (name, child) :: later =>
      child.walk.map (fun (path, scope) => (name :: path, scope)) ++ walkChildren later

end

mutual

/-- The number of classes in the scope and all scopes below it. -/
def typeCount : Scope → Nat
  | ⟨_, types, children⟩ => types.length + typeCountChildren children

def typeCountChildren : List (String × Scope) → Nat
  | [] => 0
  | (_, child) :: later => child.typeCount + typeCountChildren later

end

end Scope

end Stencil
