import Stencil.Path
import Stencil.Text.Utf8
import Stencil.Text.Quoted

/-!
A file tree as a value, and the operations of programs on it: looking up a path, listing,
reading, making directories, writing and renaming. A path is followed name by name from the root
or from the working directory, so what two dots lead to depends on the tree. Names and paths have
a greatest length, which is a fault of its own wherever a path is followed.
-/

namespace Stencil

inductive Entry where
  | file (bytes : Utf8.Bytes)
  | directory (entries : List (String × Entry))
deriving Repr

namespace Entry

def isDirectory : Entry → Bool
  | directory _ => true
  | file _ => false

def entries : Entry → List (String × Entry)
  | directory entries => entries
  | file _ => []

def child? (entry : Entry) (name : String) : Option Entry :=
  (entry.entries.find? (·.1 == name)).map (·.2)

/-- The entry at a chain of names below `entry`. -/
def descend? (entry : Entry) : List String → Option Entry
  | [] => some entry
  | name :: later => (entry.child? name).bind (·.descend? later)

end Entry

/-! ## Faults -/

inductive FileFault where
  | notFound
  | exists
  | notADirectory
  | isADirectory
  | nameTooLong
  /-- No operation takes a path with a null character. -/
  | nullCharacter
deriving DecidableEq, Repr

/-- An operation that failed, with the path as it was given. -/
structure FileError where
  fault : FileFault
  path : String
deriving DecidableEq, Repr

namespace FileFault

/-- The number of a fault that the system reports. -/
def number? : FileFault → Option Nat
  | notFound => some 2
  | «exists» => some 17
  | notADirectory => some 20
  | isADirectory => some 21
  | nameTooLong => some 36
  | nullCharacter => none

def description : FileFault → String
  | notFound => "No such file or directory"
  | «exists» => "File exists"
  | notADirectory => "Not a directory"
  | isADirectory => "Is a directory"
  | nameTooLong => "File name too long"
  | nullCharacter => "embedded null byte"

end FileFault

def FileError.message (error : FileError) : String :=
  match error.fault.number? with
  | some number => s!"[Errno {number}] {error.fault.description}: {Quoted.literal error.path}"
  | none => error.fault.description

namespace Utf8

def Reason.description : Reason → String
  | invalidStart => "invalid start byte"
  | unexpectedEnd => "unexpected end of data"
  | invalidContinuation => "invalid continuation byte"

def DecodeError.message (error : DecodeError) : String :=
  let place :=
    if error.count == 1 then
      "byte 0x" ++ .ofList (Quoted.hexDigits 2 error.first.toNat) ++ s!" in position {error.start}"
    else s!"bytes in position {error.start}-{error.start + error.count - 1}"
  "'utf-8' codec can't decode " ++ place ++ ": " ++ error.reason.description

end Utf8

/-- Why a text could not be read from a file. -/
inductive ReadError where
  | file (error : FileError)
  | decoding (error : Utf8.DecodeError)
deriving DecidableEq, Repr

def ReadError.message : ReadError → String
  | file error => error.message
  | decoding error => error.message

/-! ## Trees with a working directory -/

/-- `working` is the chain of names from the root to the working directory. -/
structure FileTree where
  root : Entry
  working : List String
deriving Repr

namespace FileTree

/-- The greatest number of bytes that a name may have. -/
def longestName : Nat := 255

/-- The greatest number of bytes that a path may have. -/
def longestPath : Nat := 4095

/-- Follows names from the place `reached`, which is kept as a chain of names from the root with
the last one first. -/
def follow (root : Entry) (reached : List String) : List String →
    Except FileFault (List String)
  | [] => .ok reached
  | name :: later =>
      match root.descend? reached.reverse with
      | none => .error .notFound
      | some (.file _) => .error .notADirectory
      | some (.directory entries) =>
          if longestName < name.utf8ByteSize then .error .nameTooLong
          else if name == ".." then follow root reached.tail later
          else if (entries.find? (·.1 == name)).isSome then follow root (name :: reached) later
          else .error .notFound

/-- The place that a path leads to: its chain of names from the root. -/
def locate (tree : FileTree) (path : Path) : Except FileFault (List String) :=
  if path.hasNull then .error .nullCharacter
  else if longestPath < path.toString.utf8ByteSize then .error .nameTooLong
  else
    (follow tree.root (if path.isAbsolute then [] else tree.working.reverse) path.names).map
      List.reverse

def find (tree : FileTree) (path : Path) : Except FileFault Entry :=
  match tree.locate path with
  | .error fault => .error fault
  | .ok place =>
      match tree.root.descend? place with
      | some entry => .ok entry
      | none => .error .notFound

def isFile (tree : FileTree) (path : Path) : Bool :=
  match tree.find path with
  | .ok (.file _) => true
  | _ => false

def isDirectory (tree : FileTree) (path : Path) : Bool :=
  match tree.find path with
  | .ok (.directory _) => true
  | _ => false

/-- Whether a path leads to an entry that is accepted. It does not if it leads to nothing, but a
name that is too long is an error. -/
def leadsTo (tree : FileTree) (accepts : Entry → Bool) (path : Path) : Except FileError Bool :=
  match tree.find path with
  | .ok entry => .ok (accepts entry)
  | .error .nameTooLong => .error ⟨.nameTooLong, path.toString⟩
  | .error _ => .ok false

def readBytes (tree : FileTree) (path : Path) : Except FileError Utf8.Bytes :=
  match tree.find path with
  | .error fault => .error ⟨fault, path.toString⟩
  | .ok (.directory _) => .error ⟨.isADirectory, path.toString⟩
  | .ok (.file bytes) => .ok bytes

/-- The text that bytes hold, with every kind of line end read as a line feed. -/
def decodeText (bytes : Utf8.Bytes) : Except ReadError String :=
  match Utf8.decode bytes with
  | .error error => .error (.decoding error)
  | .ok text => .ok (.ofList (unifyLineEnds text.toList))

def readText (tree : FileTree) (path : Path) : Except ReadError String :=
  match tree.readBytes path with
  | .error error => .error (.file error)
  | .ok bytes => decodeText bytes

/-! ## Changes -/

/-- Sets the entry `name` among `entries`; one that is there keeps its place. -/
def setEntry (entries : List (String × Entry)) (name : String) (entry : Entry) :
    List (String × Entry) :=
  if (entries.find? (·.1 == name)).isSome then
    entries.map fun (other, old) => if other == name then (other, entry) else (other, old)
  else entries ++ [(name, entry)]

/-- Sets the entry at a chain of names whose directories are there. -/
def setAt (root : Entry) : List String → Entry → Entry
  | [], entry => entry
  | name :: later, entry =>
      let below := (root.child? name).getD (.directory [])
      .directory (setEntry root.entries name (setAt below later entry))

def removeAt (root : Entry) : List String → Entry
  | [] => root
  | [name] => .directory (root.entries.filter (·.1 != name))
  | name :: later =>
      match root.child? name with
      | none => root
      | some below => .directory (setEntry root.entries name (removeAt below later))

/-- The place of a path that need not be there itself, though its parent must. -/
def locateNew (tree : FileTree) (path : Path) : Except FileFault (List String) :=
  match tree.locate path with
  | .ok place => .ok place
  | .error .notFound =>
      match tree.find path.parent with
      | .error fault => .error fault
      | .ok (.file _) => .error .notADirectory
      | .ok (.directory _) =>
          (tree.locate path.parent).map (· ++ [path.name])
  | .error fault => .error fault

/-- Writes a file, new or over the old contents. -/
def writeBytes (tree : FileTree) (path : Path) (bytes : Utf8.Bytes) : Except FileError FileTree :=
  match tree.find path with
  | .ok (.directory _) => .error ⟨.isADirectory, path.toString⟩
  | _ =>
      match tree.locateNew path with
      | .error fault => .error ⟨fault, path.toString⟩
      | .ok place => .ok { tree with root := setAt tree.root place (.file bytes) }

/-- Makes one directory in a directory that is there. -/
def makeDirectory (tree : FileTree) (path : Path) : Except FileFault FileTree :=
  match tree.find path with
  | .ok _ => .error .exists
  | .error .notFound =>
      match tree.locateNew path with
      | .error fault => .error fault
      | .ok place => .ok { tree with root := setAt tree.root place (.directory []) }
  | .error fault => .error fault

/-- Makes the directory of a path and the missing ones above it; one that is there already is no
fault. `names` counts the names of the path that may still be taken off. -/
def makeDirectoriesUpTo (tree : FileTree) (path : Path) : (names : Nat) → Except FileError FileTree
  | 0 =>
      if tree.isDirectory path then .ok tree else .error ⟨.notFound, path.toString⟩
  | names + 1 =>
      match tree.makeDirectory path with
      | .ok made => .ok made
      | .error .notFound =>
          match makeDirectoriesUpTo tree path.parent names with
          | .error error => .error error
          | .ok above =>
              match above.makeDirectory path with
              | .ok made => .ok made
              | .error fault =>
                  if above.isDirectory path then .ok above else .error ⟨fault, path.toString⟩
      | .error fault =>
          if tree.isDirectory path then .ok tree else .error ⟨fault, path.toString⟩

def makeDirectories (tree : FileTree) (path : Path) : Except FileError FileTree :=
  makeDirectoriesUpTo tree path path.names.length

/-- Moves the file at one place over the one at another. -/
def rename (tree : FileTree) (source target : List String) : FileTree :=
  match tree.root.descend? source with
  | none => tree
  | some entry => { tree with root := setAt (removeAt tree.root source) target entry }

/-- The absolute form of a path, with dots taken out by name alone; for names that lead to
nothing this is all that can be said. -/
def resolve (tree : FileTree) (path : Path) : Path :=
  let start := if path.isAbsolute then [] else tree.working.reverse
  let reached := path.names.foldl
    (fun reached name => if name == ".." then reached.tail else name :: reached) start
  { root := if path.root == .double then .double else .single, names := reached.reverse }

end FileTree

end Stencil
