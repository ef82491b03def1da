import Stencil.Files
import Stencil.Ignore.Match

/-!
The patterns that hold for a template tree: those of the ignore file at its root, then those of
the configuration, each of them once.
-/

namespace Stencil.Ignore

/-- The ignore file at the root of a template tree. -/
def fileName : String := ".typedhtmlignore"

/-- The patterns of an ignore file: its lines without the blanks around them, less comments and
empty lines. -/
def linePatterns (text : String) : List String :=
  ((lines text).map fun line => String.ofList (trim line.toList)).filter fun line =>
    line != "" && line.toList.head? != some '#'

/-- The patterns of the ignore file at `path`; a file that is not there has none. -/
def readPatterns (tree : FileTree) (path : Path) : Except ReadError (List String) :=
  match tree.leadsTo (!·.isDirectory) path with
  | .error error => .error (.file error)
  | .ok false => .ok []
  | .ok true => (tree.readText path).map linePatterns

/-- Leaves the first one of equal members. -/
def distinct (patterns : List String) : List String :=
  patterns.foldl (fun found pattern => if found.contains pattern then found else found ++ [pattern])
    []

/-- Where patterns come from besides the command itself. -/
structure Sources where
  useFile : Bool := true
  extra : List String := []
deriving Repr

def collectPatterns (tree : FileTree) (root : Path) (sources : Sources) :
    Except ReadError (List String) := do
  let fromFile ← if sources.useFile then readPatterns tree (root / fileName) else .ok []
  return distinct (fromFile ++ sources.extra)

/-- Why the patterns of a tree cannot be had. -/
inductive IgnoreError where
  | reading (error : ReadError)
  | pattern (error : PatternError)
deriving DecidableEq, Repr

def IgnoreError.message : IgnoreError → String
  | reading error => error.message
  | pattern error => error.message

def readAll (patterns : List String) : Except PatternError (List Pattern) :=
  patterns.mapM Pattern.read

/-- The patterns of a tree, ready to match; none if there are no lines to read them from. -/
def patternsFor (tree : FileTree) (root : Path) (sources : Sources) :
    Except IgnoreError (Option (List Pattern)) :=
  match collectPatterns tree root sources with
  | .error error => .error (.reading error)
  | .ok [] => .ok none
  | .ok lines =>
      match readAll lines with
      | .error error => .error (.pattern error)
      | .ok patterns => .ok (some patterns)

end Stencil.Ignore
