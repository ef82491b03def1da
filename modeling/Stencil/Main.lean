import Stencil.CommandLine.Run

/-!
The program. It takes a picture of the files that a command line may touch, runs the command line
on the picture, and then makes the files what the command left.
-/

namespace Stencil.Program

/-- A chain of names from the root. -/
abbrev Place := List String

def placeText (place : Place) : String := "/" ++ joinTexts "/" place

/-- The place as a member of its directory. -/
def directoryEntry (place : Place) : IO.FS.DirEntry :=
  ⟨placeText place.dropLast, place.getLast?.getD "."⟩

/-! ## The picture -/

/-- What is at a place; below a directory, links are left out. -/
partial def readEntry (place : Place) : IO (Option Entry) := do
  let here := (directoryEntry place).path
  match ← here.metadata.toBaseIO with
  | .error _ => return none
  | .ok about =>
      match about.type with
      | .file => return some (.file (← IO.FS.readBinFile here).toList)
      | .dir =>
          let mut entries : List (String × Entry) := []
          for member in ← here.readDir do
            if (← member.path.symlinkMetadata).type != .symlink then
              if let some entry ← readEntry (place ++ [member.fileName]) then
                entries := (member.fileName, entry) :: entries
          return some (.directory entries)
      | _ => return none

/-- Adds what is at a place to a picture. -/
def addPlace (root : Entry) (place : Place) : IO Entry := do
  match ← readEntry place with
  | some entry => return FileTree.setAt root place entry
  | none => return root

def placeOf (working : Place) (text : String) : Place :=
  ((⟨.directory [], working⟩ : FileTree).resolve (Path.ofString text)).names

/-- A directory and all above it. -/
def upwards (place : Place) : List Place :=
  (List.range (place.length + 1)).map place.take

/-- The places that a command line may read: all that it names, the working directory, and the
settings files. -/
def placesToRead (working : Place) (environment : Settings.Environment) (line : List String) :
    List Place :=
  let words := line ++ line.filterMap fun word => (CommandLine.splitWord word).2
  (upwards working).map (· ++ [Settings.projectFileName]) ++
    [(Settings.userFilePath environment).names, working] ++
    words.flatMap fun word =>
      let place := placeOf working word
      if place.isPrefixOf working then [place ++ [Settings.projectFileName]] else [place]

/-! ## Changes -/

partial def filesBelow (place : Place) : Entry → List (Place × Utf8.Bytes)
  | .file bytes => [(place, bytes)]
  | .directory entries => entries.flatMap fun (name, entry) => filesBelow (place ++ [name]) entry

/-- The files of `after` that `before` does not have with the same contents. -/
def changes (before after : Entry) : List (Place × Utf8.Bytes) :=
  let old := filesBelow [] before
  (filesBelow [] after).filter fun (place, bytes) => old.lookup place != some bytes

def isFile (place : Place) : IO Bool := do
  match ← (directoryEntry place).path.metadata.toBaseIO with
  | .ok about => return about.type == .file
  | .error _ => return false

/-- Makes the files what `after` says. -/
def carryOut (before after : Entry) : IO Unit := do
  for (place, bytes) in changes before after do
    IO.FS.createDirAll (placeText place.dropLast)
    IO.FS.writeBinFile (placeText place) ⟨bytes.toArray⟩
  for (place, _) in filesBelow [] before do
    if (after.descend? place).isNone then IO.FS.removeFile (placeText place)

/-! ## Surroundings -/

def readVariables (bytes : Utf8.Bytes) : Settings.Environment :=
  (bytes.splitOn 0).filterMap fun entry =>
    match Utf8.decode entry with
    | .ok text =>
        match CommandLine.splitWord text with
        | (name, some value) => some (name, value)
        | (_, none) => none
    | .error _ => none

/-- The time at which this process began. -/
def startTime : IO String := do
  let about ← (directoryEntry ["proc", "self"]).path.metadata
  let moment := DateTime.ofUnixTime about.modified.sec.toNat (about.modified.nsec.toNat / 1000)
  return moment.toString ++ "Z"

/-- Runs a command line on a picture. If it writes over a file that the picture lacks, that file is
added first; `rounds` bounds how often. -/
def runOn (environment : Settings.Environment) (working : Place) (time : String)
    (line : List String) : (rounds : Nat) → (root : Entry) →
    IO (Entry × Except CommandLine.Escape CommandLine.Outcome)
  | 0, root => return (root, CommandLine.run ⟨⟨root, working⟩, environment⟩ time line)
  | rounds + 1, root => do
      let result := CommandLine.run ⟨⟨root, working⟩, environment⟩ time line
      let written := (result.toOption.map fun outcome => changes root outcome.files.root).getD []
      let unseen ← written.filterM fun (place, _) => do
        return (root.descend? place).isNone && (← isFile place)
      if unseen.isEmpty then return (root, result)
      else runOn environment working time line rounds (← unseen.foldlM (addPlace · ·.1) root)

end Stencil.Program

open Stencil Stencil.Program

def main (line : List String) : IO UInt32 := do
  let environment := readVariables (← IO.FS.readBinFile "/proc/self/environ").toList
  let working := (Path.ofString (← IO.currentDir).toString).names
  let root ← (placesToRead working environment line).foldlM addPlace (.directory [])
  let (before, result) ← runOn environment working (← startTime) line 16 root
  let outcome := CommandLine.ending ⟨before, working⟩ result
  carryOut before outcome.files.root
  IO.print outcome.out
  IO.eprint outcome.err
  return outcome.code.toUInt32
