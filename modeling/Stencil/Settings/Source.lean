import Stencil.Files
import Stencil.Settings.Environment
import Stencil.Settings.Typed
import Stencil.Toml.Document

/-!
Where settings come from: the command line, environment variables, the file of the project, the
file of the user, and the defaults, the highest in rank first. The project is the nearest directory
upwards that holds its settings file.
-/

namespace Stencil.Settings

inductive SourceName where
  | cli
  | env
  | project
  | user
  | default
deriving DecidableEq, Repr

namespace SourceName

def all : List SourceName := [cli, env, project, user, default]

def name : SourceName → String
  | cli => "cli"
  | env => "env"
  | project => "project"
  | user => "user"
  | default => "default"

def ofName? (name : String) : Option SourceName := all.find? (·.name == name)

/-- Why `ofName?` gives nothing. -/
def unknownMessage (name : String) : String :=
  s!"{Quoted.literal name} is not a valid ConfigSourceName"

end SourceName

structure Source where
  name : SourceName
  path : Option Path
  «exists» : Bool
  values : Table
deriving Repr

/-- The file tree and the variables that a process sees. -/
structure Surroundings where
  files : FileTree
  environment : Environment

/-- What is asked for beside the files: the project if it is given, and the sources that count. -/
structure Request where
  projectRoot : Option Path := none
  includeEnvironment : Bool := true
  includeCli : Bool := false
  overrides : Table := []

def projectFileName : String := "typedhtml.toml"

/-- Looks for the settings file of a project in a directory and those above it; `names` counts the
directories that are left. -/
def findRootFrom (tree : FileTree) (directory : Path) :
    (names : Nat) → Except FileError (Option Path)
  | 0 => do
      let isRoot ← tree.leadsTo (!·.isDirectory) (directory / projectFileName)
      return if isRoot then some directory else none
  | names + 1 => do
      let isRoot ← tree.leadsTo (!·.isDirectory) (directory / projectFileName)
      if isRoot then return some directory else findRootFrom tree directory.parent names

/-- The nearest directory with the settings file of a project, from `start` or else the working
directory upwards. -/
def findProjectRoot (tree : FileTree) (start : Option Path) : Except FileError (Option Path) :=
  let directory := tree.resolve (start.getD (Path.ofString ""))
  if directory.hasNull then .error ⟨.nullCharacter, directory.toString⟩
  else findRootFrom tree directory directory.names.length

/-- The project that the working directory lies in. -/
def currentProject? (tree : FileTree) : Option Path :=
  match findProjectRoot tree none with
  | .ok found => found
  | .error _ => none

/-- The home directory as its variable gives it, without slashes at its end. -/
def homeDirectory (environment : Environment) : String :=
  let home := (Environment.find? environment "HOME").getD ""
  .ofList (home.toList.reverse.dropWhile (· == '/')).reverse

/-- The path of the user's settings file, whether or not it is there. -/
def userFilePath (environment : Environment) : Path :=
  let given := (Environment.find? environment "XDG_CONFIG_HOME").getD ""
  let base :=
    if (trim given.toList).isEmpty then homeDirectory environment ++ "/.config" else given
  Path.ofString base / "typedhtml" / "config.toml"

def fileSource (tree : FileTree) (name : SourceName) (path : Path) : Source :=
  ⟨name, some path, tree.isFile path, []⟩

/-- All sources that count, the highest in rank first. Files are among them even where they are
missing. -/
def discover (surroundings : Surroundings) (request : Request) : List Source :=
  let tree := surroundings.files
  let root := request.projectRoot.or (currentProject? tree)
  (if request.includeCli then [⟨.cli, none, !request.overrides.isEmpty, request.overrides⟩]
    else []) ++
  (if request.includeEnvironment then [⟨.env, none, true, []⟩] else []) ++
  (root.map fun directory => fileSource tree .project (directory / projectFileName)).toList ++
  [fileSource tree .user (userFilePath surroundings.environment), ⟨.default, none, true, defaults⟩]

/-! ## Settings files -/

/-- Why a settings file could not be read. -/
inductive LoadError where
  | file (error : FileError)
  | decoding (error : Utf8.DecodeError)
  | parsing (path : Path) (message : String)
  /-- An integer too long to read, which is told without a place. -/
  | integer (message : String)
deriving DecidableEq, Repr

def LoadError.message : LoadError → String
  | file error => error.message
  | decoding error => error.message
  | parsing _ message => s!"Failed to parse TOML file: {message}"
  | integer message => message

/-- The table that a settings file holds. -/
def loadTable (tree : FileTree) (path : Path) : Except LoadError Table :=
  match tree.readBytes path with
  | .error error => .error (.file error)
  | .ok bytes =>
      match Utf8.decode bytes with
      | .error error => .error (.decoding error)
      | .ok document =>
          match Toml.read document with
          | .ok table => .ok table
          | .error fault =>
              let message := fault.message (Toml.documentText document)
              match fault.cause with
              | .longInteger _ => .error (.integer message)
              | _ => .error (.parsing path message)

end Stencil.Settings
