import Stencil.Json.Read
import Stencil.Number.Numeral
import Stencil.Settings.Merge
import Stencil.Text.Case

/-!
Settings from environment variables. A variable with the prefix of the program sets the key that
its name spells in small letters, two underscores standing for a dot. Its value is read as a truth
value, an integer or an array if it has the form of one, and is a text otherwise.
-/

namespace Stencil.Settings

/-! ## Values of variables -/

def truthWord? (text : String) : Option Bool :=
  match lowerCase text with
  | "true" | "1" => some true
  | "false" | "0" => some false
  | _ => none

def array? (text : String) : Option Value :=
  if text.startsWith "[" && text.endsWith "]" then Json.read? text else none

/-- The value that a text stands for. -/
def parseText (text : String) : Value :=
  match truthWord? text, Numeral.integer? text, array? text with
  | some value, _, _ => .bool value
  | none, some value, _ => .int value
  | none, none, some value => value
  | none, none, none => .text text

/-! ## Variables -/

/-- The variables of a process, in order; no two have the same name. -/
abbrev Environment := List (String × String)

namespace Environment

def find? (environment : Environment) (name : String) : Option String :=
  (List.find? (fun (entry : String × String) => entry.1 == name) environment).map (·.2)

/-- Sets a variable; one that is there keeps its place. -/
def set (environment : Environment) (name value : String) : Environment :=
  if (find? environment name).isSome then
    environment.map fun old => if old.1 == name then (name, value) else old
  else environment ++ [(name, value)]

end Environment

def variablePrefix : String := "TYPEDHTML_"

/-- Names behind the prefix that switch something and set no key. -/
def switches : List String := ["DEBUG", "LOG_LEVEL", "STRICT_CONFIG"]

/-- Two underscores become a dot. -/
def dotPairs : List Char → List Char
  | '_' :: '_' :: rest => '.' :: dotPairs rest
  | c :: rest => c :: dotPairs rest
  | [] => []

/-- The key that a variable sets, given its name behind the prefix. -/
def variableKey (name : String) : String :=
  lowerCase (.ofList (dotPairs name.toList))

example : ["A__B", "A___B", "A____B"].map variableKey = ["a.b", "a._b", "a..b"] := by
  decide +kernel

/-- What follows the prefix of a name, if it has the prefix and names a key. -/
def keyName? (leading name : String) : Option String :=
  if leading.toList.isPrefixOf name.toList then
    let rest := String.ofList (name.toList.drop leading.length)
    if rest == "" || switches.contains rest then none else some rest
  else none

/-- The settings that the variables with a prefix come to, later ones over earlier ones. -/
def fromEnvironment (environment : Environment) (leading : String) : Table :=
  environment.foldl
    (fun table (name, value) =>
      match keyName? leading name with
      | none => table
      | some key => setNested table (variableKey key) (parseText value))
    []

end Stencil.Settings
