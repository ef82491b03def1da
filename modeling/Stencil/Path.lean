import Stencil.Text.Lines

/-!
Paths as text: an optional root and names between slashes. Empty names and names that are a
single dot say nothing and are dropped; two dots are kept, for only the tree can tell what they
lead to.
-/

namespace Stencil

/-- Exactly two slashes at the front make a root of their own. -/
inductive Root where
  | relative
  | single
  | double
deriving DecidableEq, Repr

structure Path where
  root : Root
  names : List String
deriving DecidableEq, Repr

namespace Path

def rootOf (text : List Char) : Root :=
  match (text.takeWhile (· == '/')).length with
  | 0 => .relative
  | 2 => .double
  | _ => .single

def ofString (text : String) : Path where
  root := rootOf text.toList
  names := (splitText '/' text).filter fun name => name != "" && name != "."

protected def toString (path : Path) : String :=
  let names := joinTexts "/" path.names
  match path.root with
  | .relative => if path.names.isEmpty then "." else names
  | .single => "/" ++ names
  | .double => "//" ++ names

instance : ToString Path := ⟨Path.toString⟩

example : (ofString "./a//b/").toString = "a/b" := by decide

example : (ofString "").toString = "." := by decide

example : (ofString "///a").toString = "/a" := by decide

def isAbsolute (path : Path) : Bool := path.root != .relative

/-- Whether a name holds the null character, which no name of a file does. -/
def hasNull (path : Path) : Bool := path.names.any (·.toList.contains '\x00')

/-- The last name; empty for a path without names. -/
def name (path : Path) : String :=
  path.names.getLast?.getD ""

/-- The path without its last name; a path without names is its own parent. -/
def parent (path : Path) : Path :=
  { path with names := path.names.dropLast }

/-- An absolute path on the right replaces the one on the left. -/
def append (base other : Path) : Path :=
  if other.isAbsolute then other else { base with names := base.names ++ other.names }

instance : HDiv Path String Path := ⟨fun base text => base.append (ofString text)⟩

/-- A name up to its last dot, which counts only if text stands on both sides of it. -/
def stemOf (name : List Char) : List Char :=
  let extension := name.reverse.takeWhile (· != '.')
  let before := name.take (name.length - extension.length - 1)
  if extension.isEmpty || before.isEmpty then name else before

def stem (path : Path) : String :=
  .ofList (stemOf path.name.toList)

example : (ofString "a/b.c.html").stem = "b.c" := by decide

example : ["a.", ".a", "..a", "..", "a..b"].map (fun name => (ofString name).stem) =
    ["a.", ".a", ".", "..", "a."] := by decide

end Path

end Stencil
