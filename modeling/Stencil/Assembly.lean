import Stencil.ClassSource.Check
import Stencil.Ignore.Patterns
import Stencil.Template.Compile
import Stencil.Template.Name

/-!
Assembly of a directory of templates into a tree of scopes. Entries are visited in the order of
their names, each directory before what follows it. A directory becomes the child scope that is
named after its stem, one with the directories beside it that have the same stem; every other
entry becomes a class of the scope that it stands in. The first failure ends the traversal.
-/

namespace Stencil

/-- Why templates could not be turned into source. -/
inductive ConversionError where
  | notADirectory (path : Path)
  | fileName (error : FileNameError)
  | header (error : HeaderError)
  | source (error : SourceError)
  | reading (error : ReadError)
  | pattern (error : Ignore.PatternError)
deriving DecidableEq, Repr

def ConversionError.message : ConversionError → String
  | notADirectory path => s!"The path is not a directory: {path}"
  | fileName error => error.message
  | header error => error.message
  | source error => error.message
  | reading error => error.message
  | pattern error => error.message

namespace Run

/-- Reads an error as one of a wider kind. -/
def mapError {ε δ α : Type} (widen : ε → δ) (run : Run ε α) : Run δ α :=
  ⟨run.events, run.result.mapError widen⟩

end Run

/-! ## Entries in order -/

namespace Entry

def nameBefore (left right : String × Entry) : Bool := left.1 ≤ right.1

mutual

/-- The same tree with the entries of each directory in the order of their names. -/
def sorted : Entry → Entry
  | file bytes => file bytes
  | directory entries => directory ((sortedEntries entries).mergeSort nameBefore)

/-- Sorts below each entry, not among them. -/
def sortedEntries : List (String × Entry) → List (String × Entry)
  | [] => []
  | (name, entry) :: later => (name, entry.sorted) :: sortedEntries later

end

end Entry

/-! ## Traversal -/

/-- The class of a template file, named after the file. -/
def compileFile (name : String) (text : Except ReadError String) (minified : Bool) :
    Run ConversionError TemplateClass := do
  let name ← Run.ofExcept ((className name).mapError .fileName)
  let document ← Run.ofExcept (text.mapError .reading)
  (compileTemplate document name minified).mapError .header

namespace Assembly

/-- What holds for a whole traversal: the directory where it began, and what it leaves out. -/
structure Plan where
  root : Path
  patterns : Option (List Ignore.Pattern)
  minified : Bool

/-- The path of an entry at a chain of names below the root. -/
def Plan.pathOf (plan : Plan) (place : List String) : Path :=
  { plan.root with names := plan.root.names ++ place }

/-- Whether the entry at `place` is left out; the path of a directory is matched with a slash at
its end. -/
def Plan.excludes (plan : Plan) (place : List String) (entry : Entry) : Bool :=
  match plan.patterns with
  | none => false
  | some patterns =>
      Ignore.ignored patterns (joinTexts "/" place ++ if entry.isDirectory then "/" else "")

/-- Whether the entry at `place` is the ignore file of the root, which is no template. -/
def isIgnoreFile (place : List String) : Bool := place == [Ignore.fileName]

mutual

/-- Adds what the entries of the directory at `place` come to. -/
def addEntries (plan : Plan) (place : List String) (scope : Scope) :
    List (String × Entry) → Run ConversionError Scope
  | [] => pure scope
  | (name, entry) :: later =>
      let here := place ++ [name]
      if isIgnoreFile here then addEntries plan place scope later
      else if plan.excludes here entry then do
        Run.report (.entrySkipped (plan.pathOf here).toString)
        addEntries plan place scope later
      else do
        addEntries plan place (← addEntry plan here scope entry) later

/-- Adds what the entry at `place` comes to. -/
def addEntry (plan : Plan) (place : List String) (scope : Scope) :
    Entry → Run ConversionError Scope
  | .file bytes => do
      let path := plan.pathOf place
      return scope.add (← compileFile path.name (FileTree.decodeText bytes) plan.minified)
  | .directory entries => do
      let path := plan.pathOf place
      let parent := scope.withChild path.stem
      let child := (parent.child? path.stem).getD {}
      Run.report (.scopeEntered path.toString child.name)
      return parent.setChild path.stem (← addEntries plan place child entries)

end

end Assembly

/-- The tree of scopes of a directory of templates, and the patterns of what it leaves out beside
those of its ignore file. -/
def assemble (tree : FileTree) (root : Path) (minified : Bool) (exclude : List String) :
    Run ConversionError Scope :=
  match tree.find root with
  | .error .nameTooLong => Run.fail (.reading (.file ⟨.nameTooLong, root.toString⟩))
  | .ok (.directory entries) =>
      match Ignore.patternsFor tree root { extra := exclude } with
      | .error (.reading error) => Run.fail (.reading error)
      | .error (.pattern error) => Run.fail (.pattern error)
      | .ok patterns => do
          Run.report (.scopeEntered root.toString none)
          let scope ← Assembly.addEntries ⟨root, patterns, minified⟩ [] {}
            (Entry.directory entries).sorted.entries
          Run.report (.directoryAssembled root.toString scope.typeCount (scope.walk.length - 1))
          return scope
  | _ => Run.fail (.notADirectory root)

/-- The class of the template file at `path`. -/
def assembleFile (tree : FileTree) (path : Path) (minified : Bool) :
    Run ConversionError TemplateClass :=
  compileFile path.name (tree.readText path) minified

end Stencil
