import Stencil.Scope

/-!
Instances of generated classes. An instance has one place for each slot of its class and no other
attribute can be set on it, so a field must find a slot of its own name. Some names mean more than
a slot: an instance has the attributes that every object has, and some slots change how instances
are made or how their attributes are reached.
-/

namespace Stencil

/-- What generated source hands to a class. -/
inductive Argument where
  | text (value : String)
  | int (value : Int)
  | bool (value : Bool)
  | none
deriving DecidableEq, Repr

namespace Argument

/-- How a value is shown in a body. -/
def format : Argument → String
  | text value => value
  | int value => toString value
  | bool true => "True"
  | bool false => "False"
  | none => "None"

/-- The class of a value. -/
def kind : Argument → String
  | text _ => "str"
  | int _ => "int"
  | bool _ => "bool"
  | none => "NoneType"

end Argument

/-- A field of a class that was loaded. Its slot is spelled as the source has it, whereas the
parameter, the attribute and the local name all have the form in which names are compared. -/
structure LoadedField where
  slot : String
  name : String
deriving DecidableEq, Repr

/-- What keeps an attribute from being set. The class goes by its bare name. -/
inductive AttributeError where
  | missing (owner name : String)
  | readOnly (owner name : String)
  | unwritable (owner name : String)
  | notADictionary (kind : String)
  | notAClass (kind : String)
deriving DecidableEq, Repr

def AttributeError.message : AttributeError → String
  | missing owner name => s!"'{owner}' object has no attribute '{name}'"
  | readOnly owner name => s!"'{owner}' object attribute '{name}' is read-only"
  | unwritable owner name => s!"attribute '{name}' of '{owner}' objects is not writable"
  | notADictionary kind => s!"__dict__ must be set to a dictionary, not a '{kind}'"
  | notAClass kind => s!"__class__ must be set to a class, not '{kind}' object"

namespace Attribute

/-- The attributes of a generated class that its instances share. -/
def ofClass : List String := [
  "render", "__init__", "__slots__", "__module__", "__annotations__", "__doc__"]

/-- The attributes of every object, without the class itself. -/
def ofObject : List String := [
  "__delattr__", "__dir__", "__eq__", "__format__", "__ge__", "__getattribute__", "__getstate__",
  "__gt__", "__hash__", "__init_subclass__", "__le__", "__lt__", "__ne__", "__new__", "__reduce__",
  "__reduce_ex__", "__repr__", "__setattr__", "__sizeof__", "__str__", "__subclasshook__"]

/-- Whether an attribute can be set on an instance of a class with these slots, and if not, why.
A slot for the setting of attributes is still empty when the first attribute is set. -/
def set (owner : String) (slots : List String) (name : String) (value : Argument) :
    Except AttributeError Unit :=
  if slots.contains "__setattr__" then .error (.missing owner "__setattr__")
  else if slots.contains name then
    if name == "__dict__" then .error (.notADictionary value.kind)
    else if name == "__weakref__" then .error (.unwritable owner name)
    else .ok ()
  else if name == "__class__" then .error (.notAClass value.kind)
  else if slots.contains "__dict__" then .ok ()
  else if ofClass.contains name || ofObject.contains name then .error (.readOnly owner name)
  else .error (.missing owner name)

example : (set "Page" ["a"] "a" .none).isOk = true := by decide +kernel

/-- The slots for which the class already has an attribute. -/
def conflictingSlots : List String := ["__module__", "__annotations__"]

end Attribute

end Stencil
