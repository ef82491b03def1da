import Stencil.Text.Word
import Stencil.Text.Digit

/-!
Names made fit for the generated class. A character that is no word character becomes an
underscore, a leading digit gets one in front, and a keyword or a name that the class keeps for
itself gets one behind.
-/

namespace Stencil.Identifier

/-- The words that the generated language keeps for itself everywhere. -/
def keywords : List String := [
  "False", "None", "True", "and", "as", "assert", "async", "await", "break", "class", "continue",
  "def", "del", "elif", "else", "except", "finally", "for", "from", "global", "if", "import",
  "in", "is", "lambda", "nonlocal", "not", "or", "pass", "raise", "return", "try", "while",
  "with", "yield"]

/-- The names of the generated class's own members and of its receiver. -/
def memberNames : List String := ["self", "render", "__init__", "__slots__"]

def isTaken (name : List Char) : Bool :=
  (keywords ++ memberNames).any (·.toList == name)

def wordsOnly (name : List Char) : List Char :=
  name.map fun c => if Character.isWord c then c else '_'

def guardStart : List Char → List Char
  | [] => ['_']
  | c :: rest => if Character.isDigit c then '_' :: c :: rest else c :: rest

def guardEnd (name : List Char) : List Char :=
  if isTaken name then name ++ ['_'] else name

def quote (name : List Char) : List Char :=
  guardEnd (guardStart (wordsOnly name))

end Identifier

/-- The identifier that stands for `name` in the generated class. -/
def toIdentifier (name : String) : String :=
  .ofList (Identifier.quote name.toList)

example : toIdentifier "page-1" = "page_1" := by decide +kernel

example : toIdentifier "404" = "_404" := by decide +kernel

example : toIdentifier "class" = "class_" := by decide +kernel

end Stencil
