import Stencil.Event
import Stencil.Files
import Stencil.Log.Record

/-!
Journals: logs in files. Opening a journal makes its directory and its file; a record that reaches
the threshold adds a line. A journal that rotates begins a new file before a record that would
bring the file up to its size, and keeps a number of old files, the newest under number one.
-/

namespace Stencil.Log

structure Rotation where
  maxBytes : Int
  backupCount : Int
deriving DecidableEq, Repr

/-- How a journal is kept. All its records bear the same time. -/
structure Options where
  threshold : Nat
  format : Settings.LogFormat := .json
  rotation : Option Rotation := none
  time : String
deriving Repr

/-- An open journal. `directory` is the chain of names of the directory of its file, and `bound`
holds the values that every record has. -/
structure Journal where
  directory : List String
  name : String
  options : Options
  bound : Table := []
deriving Repr

/-- Why a journal could not be opened. -/
inductive OpenError where
  | file (error : FileError)
  /-- A threshold that is the number of no level. -/
  | threshold (number : Nat)
deriving DecidableEq, Repr

def OpenError.message : OpenError → String
  | file error => error.message
  | threshold number => toString number

namespace Journal

def place (journal : Journal) : List String := journal.directory ++ [journal.name]

def backupName (journal : Journal) (number : Nat) : String := s!"{journal.name}.{number}"

def backupPlace (journal : Journal) (number : Nat) : List String :=
  journal.directory ++ [journal.backupName number]

/-- The threshold in force. A journal that rotates takes the absence of a level for the level of
warnings. -/
def threshold (journal : Journal) : Nat :=
  if journal.options.rotation.isSome && journal.options.threshold == 0 then Level.warning.number
  else journal.options.threshold

/-- Opens the journal at a path. A journal that rotates knows its file by its absolute path. -/
def openAt (tree : FileTree) (path : Path) (options : Options) :
    Except OpenError (FileTree × Journal) := do
  let tree ← (tree.makeDirectories path.parent).mapError .file
  let shown := if options.rotation.isSome then tree.resolve path else path
  let old ← match tree.readBytes shown with
    | .ok bytes => .ok bytes
    | .error ⟨.notFound, _⟩ => .ok []
    | .error error => .error (.file error)
  let tree ← (tree.writeBytes shown old).mapError .file
  if !(thresholdNames.any (·.2 == options.threshold)) then
    .error (.threshold options.threshold)
  let place := (tree.locate shown).toOption.getD []
  return (tree, ⟨place.dropLast, place.getLast?.getD "", options, []⟩)

def bind (journal : Journal) (values : Table) : Journal :=
  { journal with bound := overlay journal.bound values }

def contentsAt (tree : FileTree) (place : List String) : Utf8.Bytes :=
  match tree.root.descend? place with
  | some (.file bytes) => bytes
  | _ => []

/-- Makes room for a backup under the number one by moving the others up; `number` counts the
backups that still have to move. -/
def shiftBackups (journal : Journal) (tree : FileTree) : (number : Nat) → FileTree
  | 0 => tree
  | number + 1 =>
      shiftBackups journal
        (tree.rename (journal.backupPlace (number + 1)) (journal.backupPlace (number + 2)))
        number

/-- Moves the file to the backups and begins an empty one. -/
def rotate (journal : Journal) (backupCount : Nat) (tree : FileTree) : FileTree :=
  if backupCount == 0 then tree
  else
    let shifted := shiftBackups journal tree (backupCount - 1)
    let moved := shifted.rename journal.place (journal.backupPlace 1)
    { moved with root := FileTree.setAt moved.root journal.place (.file []) }

/-- Whether a backup can bear its number: neither its name nor its path is too long. -/
def canBear (journal : Journal) (number : Nat) : Bool :=
  (journal.backupName number).utf8ByteSize ≤ FileTree.longestName &&
    (Path.mk .single (journal.backupPlace number)).toString.utf8ByteSize ≤ FileTree.longestPath

/-- Whether the file and the backups can move up. A number that one of them cannot bear keeps them
where they are, and so does a directory in the place of the last backup. -/
def canRotate (journal : Journal) (backupCount : Nat) (tree : FileTree) : Bool :=
  (List.range backupCount).all fun number =>
    let source := if number == 0 then journal.place else journal.backupPlace number
    let blocked := number + 1 == backupCount &&
      (tree.root.descend? (journal.backupPlace backupCount)).any (·.isDirectory)
    (tree.root.descend? source).isNone || journal.canBear (number + 1) && !blocked

/-- Whether the file is full before a line of `length` characters. -/
def isFull (journal : Journal) (rotation : Rotation) (tree : FileTree) (length : Nat) : Bool :=
  0 < rotation.maxBytes &&
    rotation.maxBytes ≤ ((contentsAt tree journal.place).length + length : Nat)

def append (journal : Journal) (tree : FileTree) (line : String) : FileTree :=
  { tree with
    root := FileTree.setAt tree.root journal.place
      (.file (contentsAt tree journal.place ++ Utf8.encode line)) }

/-- Adds a line to the file, or to a new one if it is full. A line for which there should be a new
file that cannot be made is lost. -/
def writeLine (journal : Journal) (tree : FileTree) (line : String) : FileTree :=
  match journal.options.rotation with
  | none => journal.append tree line
  | some rotation =>
      if !journal.isFull rotation tree line.length then journal.append tree line
      else if journal.canRotate rotation.backupCount.toNat tree then
        journal.append (journal.rotate rotation.backupCount.toNat tree) line
      else tree

/-- Adds a record with an event's own values, if it reaches the threshold. -/
def record (journal : Journal) (tree : FileTree) (level : Level) (event : String)
    (values : Table) : FileTree :=
  if level.number < journal.threshold then tree
  else
    let record : Record := ⟨level, event, overlay journal.bound values⟩
    journal.writeLine tree (record.line journal.options.format journal.options.time ++ "\n")

end Journal

/-! ## The journal of a command -/

/-- What logging settings ask for while a command runs. -/
structure CommandLog where
  level : String := "info"
  format : Settings.LogFormat := .json
  file : String := ""
  maxBytes : Option Int := none
  backupCount : Option Int := none
  command : String := ""
deriving Repr

/-- A journal rotates if both sizes are given. -/
def CommandLog.rotation (log : CommandLog) : Option Rotation := do
  return ⟨← log.maxBytes, ← log.backupCount⟩

/-- Opens the journal of a command, with its name bound to all records; an empty file name asks
for none. -/
def CommandLog.open (log : CommandLog) (tree : FileTree) (environment : Settings.Environment)
    (time : String) : Except OpenError (FileTree × Option Journal) :=
  if log.file == "" then .ok (tree, none)
  else do
    let options : Options :=
      { threshold := thresholdFor environment log.level, format := log.format,
        rotation := log.rotation, time }
    let (tree, journal) ← Journal.openAt tree (Path.ofString log.file) options
    return (tree, some (if log.command == "" then journal
      else journal.bind [("command", .text log.command)]))

/-! ## Events -/

def eventName : Event → String
  | .documentCompiled .. => "document_compiled"
  | .scopeEntered .. => "scope_entered"
  | .entrySkipped .. => "entry_skipped"
  | .directoryAssembled .. => "directory_assembled"
  | .sourceEmitted .. => "source_emitted"

def eventLevel : Event → Level
  | .directoryAssembled .. => .info
  | _ => .debug

def eventValues : Event → Table
  | .documentCompiled name fields minified =>
      [("name", .text name), ("fields", .list (fields.map .text)), ("minified", .bool minified)]
  | .scopeEntered path scope =>
      [("path", .text path), ("scope", scope.elim .null .text)]
  | .entrySkipped path => [("path", .text path)]
  | .directoryAssembled path types scopes =>
      [("path", .text path), ("types", .int types), ("scopes", .int scopes)]
  | .sourceEmitted types lines validated =>
      [("types", .int types), ("lines", .int lines), ("validated", .bool validated)]

/-- Records an event of a compilation. -/
def Journal.recordEvent (journal : Journal) (tree : FileTree) (event : Event) : FileTree :=
  journal.record tree (eventLevel event) (eventName event) (eventValues event)

end Stencil.Log
