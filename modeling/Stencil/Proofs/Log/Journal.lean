import Stencil.Log.Journal
import Stencil.Proofs.Files.Following
import Stencil.Proofs.Settings.Layers

/-!
What a journal does to the files. It changes its own file, and by rotation all that stands at or
below the places of its old files. Everything else stays as it is, be it a file or a directory.
-/

namespace Stencil.Log

open FileTree (KeepsDirectories contentAt?_setAt contentAt?_setAt_self contentAt?_rename fileAt?_setAt)
open Settings (bind_eq_ok mapError_eq_ok)

namespace Journal

variable {journal : Journal} {tree : FileTree} {before middle after : Entry}

/-- A place that a journal changes: that of its file, and with an old file all that is below. -/
def Owns (journal : Journal) (place : List String) : Prop :=
  place = journal.place ∨ ∃ number, journal.backupPlace number <+: place

/-- A place at or below one that the journal writes to. -/
def Covers (journal : Journal) (place : List String) : Prop :=
  journal.place <+: place ∨ ∃ number, journal.backupPlace number <+: place

/-- The file of the journal is there. -/
structure IsOpen (journal : Journal) (root : Entry) : Prop where
  directory : root.contentAt? journal.directory = some .directory
  file : ∃ bytes, root.contentAt? journal.place = some (.file bytes)

/-- All but the places that are covered have what they had. -/
def Keeps (journal : Journal) (before after : Entry) : Prop :=
  ∀ place, ¬ journal.Covers place → after.contentAt? place = before.contentAt? place

namespace Keeps

theorem refl (journal : Journal) (root : Entry) : journal.Keeps root root := fun _ _ => rfl

theorem trans (first : journal.Keeps before middle) (second : journal.Keeps middle after) :
    journal.Keeps before after := by
  intro place uncovered
  rw [second place uncovered, first place uncovered]

end Keeps

/-! ## Places -/

theorem dropLast_place (journal : Journal) : journal.place.dropLast = journal.directory :=
  List.dropLast_concat

theorem place_mk {place : List String} (nonempty : place ≠ []) {options : Options} {bound : Table} :
    (⟨place.dropLast, place.getLast?.getD "", options, bound⟩ : Journal).place = place := by
  rw [Journal.place, List.getLast?_eq_some_getLast nonempty, Option.getD_some,
    List.dropLast_append_getLast]

theorem dropLast_backupPlace (journal : Journal) (number : Nat) :
    (journal.backupPlace number).dropLast = journal.directory :=
  List.dropLast_concat

theorem not_prefix_directory {name : String} :
    ¬ journal.directory ++ [name] <+: journal.directory := by
  have below := FileTree.not_prefix_dropLast (List.concat_ne_nil name journal.directory)
  rwa [List.dropLast_concat] at below

theorem not_covers_directory : ¬ journal.Covers journal.directory := by
  rintro (below | ⟨number, below⟩)
  · exact not_prefix_directory below
  · exact not_prefix_directory below

theorem Keeps.directory (keeps : journal.Keeps before after)
    (directory : before.contentAt? journal.directory = some .directory) :
    after.contentAt? journal.directory = some .directory := by
  rw [keeps _ not_covers_directory, directory]

/-- With its file there before and after, a journal changes only what it owns. -/
theorem Keeps.contentAt? (keeps : journal.Keeps before after) (openBefore : journal.IsOpen before)
    (openAfter : journal.IsOpen after) {place : List String} (foreign : ¬ journal.Owns place) :
    after.contentAt? place = before.contentAt? place := by
  by_cases covered : journal.Covers place
  · rcases covered with below | backup
    · have proper : place ≠ journal.place := fun same => foreign (.inl same)
      rcases openBefore.file with ⟨old, oldFile⟩
      rcases openAfter.file with ⟨new, newFile⟩
      rw [Entry.contentAt?_of_file oldFile below proper,
        Entry.contentAt?_of_file newFile below proper]
    · exact absurd (.inr backup) foreign
  · exact keeps place covered

/-! ## Lines -/

section Lines

variable (directory : tree.root.contentAt? journal.directory = some .directory)

include directory

theorem keeps_setAt (entry : Entry) :
    journal.Keeps tree.root (FileTree.setAt tree.root journal.place entry) := by
  intro place uncovered
  apply contentAt?_setAt
  · rw [dropLast_place, directory]
  · exact fun below => uncovered (.inl below)

theorem keeps_append (line : String) :
    journal.Keeps tree.root (journal.append tree line).root :=
  keeps_setAt directory _

omit directory in
theorem file_append (line : String) :
    ∃ bytes, (journal.append tree line).root.contentAt? journal.place = some (.file bytes) :=
  ⟨_, contentAt?_setAt_self _ _ _⟩

theorem keeps_rename {source : List String}
    (isSource : source = journal.place ∨ ∃ number, source = journal.backupPlace number)
    (number : Nat) :
    journal.Keeps tree.root (tree.rename source (journal.backupPlace number)).root := by
  intro place uncovered
  have covers : source <+: place → journal.Covers place := by
    intro below
    rcases isSource with rfl | ⟨other, rfl⟩
    · exact .inl below
    · exact .inr ⟨other, below⟩
  apply contentAt?_rename
  · rw [dropLast_backupPlace, directory]
  · rw [dropLast_backupPlace]
    rcases isSource with rfl | ⟨other, rfl⟩
    · exact not_prefix_directory
    · exact not_prefix_directory
  · exact fun below => uncovered (covers below)
  · exact fun below => uncovered (.inr ⟨number, below⟩)

theorem keeps_shiftBackups (number : Nat) :
    journal.Keeps tree.root (journal.shiftBackups tree number).root := by
  induction number generalizing tree with
  | zero => exact .refl _ _
  | succ number induction =>
      have moved := keeps_rename directory (.inr ⟨number + 1, rfl⟩) (number + 2)
      exact moved.trans (induction (moved.directory directory))

theorem keeps_rotate (backupCount : Nat) :
    journal.Keeps tree.root (journal.rotate backupCount tree).root := by
  rw [rotate]
  split
  · exact .refl _ _
  · have shifted := keeps_shiftBackups directory (backupCount - 1)
    have shiftedDirectory := shifted.directory directory
    have moved := keeps_rename shiftedDirectory (.inl rfl) 1
    exact (shifted.trans moved).trans (keeps_setAt (moved.directory shiftedDirectory) _)

omit directory in
/-- Whether or not it rotates, a journal ends a line with its file there. -/
theorem keeps_writeLine (isOpen : journal.IsOpen tree.root) (line : String) :
    journal.Keeps tree.root (journal.writeLine tree line).root ∧
      journal.IsOpen (journal.writeLine tree line).root := by
  have written {tree : FileTree}
      (directory : tree.root.contentAt? journal.directory = some .directory) :
      journal.Keeps tree.root (journal.append tree line).root ∧
        journal.IsOpen (journal.append tree line).root :=
    have keeps := keeps_append directory line
    ⟨keeps, keeps.directory directory, file_append line⟩
  rw [writeLine]
  split
  · exact written isOpen.directory
  · rename_i rotation _
    split
    · exact written isOpen.directory
    · split
      · have rotated := keeps_rotate isOpen.directory rotation.backupCount.toNat
        rcases written (rotated.directory isOpen.directory) with ⟨keeps, isOpen⟩
        exact ⟨rotated.trans keeps, isOpen⟩
      · exact ⟨.refl _ _, isOpen⟩

end Lines

/-! ## Records -/

theorem keeps_record (isOpen : journal.IsOpen tree.root) (level : Level) (event : String)
    (values : Table) :
    journal.Keeps tree.root (journal.record tree level event values).root ∧
      journal.IsOpen (journal.record tree level event values).root := by
  rw [record]
  split
  · exact ⟨.refl _ _, isOpen⟩
  · exact keeps_writeLine isOpen _

theorem keeps_recordEvents (isOpen : journal.IsOpen tree.root) (events : List Event) :
    journal.Keeps tree.root (events.foldl journal.recordEvent tree).root ∧
      journal.IsOpen (events.foldl journal.recordEvent tree).root := by
  induction events generalizing tree with
  | nil => exact ⟨.refl _ _, isOpen⟩
  | cons event later induction =>
      rcases keeps_record isOpen (eventLevel event) (eventName event) (eventValues event) with
        ⟨first, opened⟩
      rcases induction opened with ⟨others, ended⟩
      exact ⟨first.trans others, ended⟩

/-! ## Opening -/

/-- A root is a directory if anything is one. -/
theorem isDirectory_rootPath {path : Path} (absolute : path.isAbsolute = true)
    (empty : path.names = []) {place : List String}
    (found : tree.root.contentAt? place = some .directory) : tree.isDirectory path = true := by
  refine FileTree.isDirectory_iff.mpr ⟨[], ?_, FileTree.contentAt?_nil_of_directory found⟩
  rcases path with ⟨root, names⟩
  cases empty
  refine FileTree.locate_eq_ok_iff.mpr ⟨rfl, ?_, ?_⟩
  · cases root with
    | relative => cases absolute
    | single => decide
    | double => decide
  · rw [FileTree.startOf, absolute]
    rfl

/-- The path that a journal knows its file by. -/
def shownPath (tree : FileTree) (path : Path) (options : Options) : Path :=
  if options.rotation.isSome then tree.resolve path else path

/-- A journal that begins with old contents writes them and is named after their place. -/
theorem writes_of_begin {shown : Path} {old : Utf8.Bytes} {options : Options} {after : FileTree}
    (begun : (do
      let written ← (tree.writeBytes shown old).mapError OpenError.file
      if !(thresholdNames.any (·.2 == options.threshold)) then
        .error (.threshold options.threshold)
      let place := (written.locate shown).toOption.getD []
      return (written, (⟨place.dropLast, place.getLast?.getD "", options, []⟩ : Journal))) =
        .ok (after, journal)) :
    tree.writeBytes shown old = .ok after ∧
      thresholdNames.any (·.2 == options.threshold) = true ∧
      ∀ place, after.locate shown = .ok place →
        journal = ⟨place.dropLast, place.getLast?.getD "", options, []⟩ := by
  rcases bind_eq_ok.mp begun with ⟨written, write, begun⟩
  split at begun
  · cases begun
  · rename_i named
    cases begun
    refine ⟨mapError_eq_ok.mp write, by simpa using named, ?_⟩
    intro place located
    rw [located]
    rfl

/-- What a journal goes through when it opens: directories are made, and its file is written with
the contents that it had, if any. -/
theorem openAt_steps {path : Path} {options : Options} {after : FileTree}
    (opened : openAt tree path options = .ok (after, journal)) :
    ∃ middle bytes, tree.makeDirectories path.parent = .ok middle ∧
      (bytes = [] ∨ middle.readBytes (shownPath middle path options) = .ok bytes) ∧
      middle.writeBytes (shownPath middle path options) bytes = .ok after ∧
      thresholdNames.any (·.2 == options.threshold) = true ∧
      ∀ place, after.locate (shownPath middle path options) = .ok place →
        journal = ⟨place.dropLast, place.getLast?.getD "", options, []⟩ := by
  rcases bind_eq_ok.mp opened with ⟨middle, made, opened⟩
  dsimp only at opened
  split at opened
  · rename_i bytes read
    exact ⟨middle, bytes, mapError_eq_ok.mp made, .inr read, writes_of_begin opened⟩
  · exact ⟨middle, [], mapError_eq_ok.mp made, .inl rfl, writes_of_begin opened⟩
  · cases opened

/-- A journal that has opened at a path: the directory of the path was made, and bytes, those that
were there or none, were written to the place that the journal has now. -/
structure IsOpening (tree middle : FileTree) (path : Path) (options : Options) (bytes : Utf8.Bytes)
    (after : FileTree) (journal : Journal) : Prop where
  makes : FileTree.MakesDirectory tree middle path.parent
  isPlace : FileTree.IsPlaceFor middle (shownPath middle path options) journal.place
  located : after.locate (shownPath middle path options) = .ok journal.place
  written : after = { middle with
    root := FileTree.setAt middle.root journal.place (.file bytes) }
  named : thresholdNames.any (·.2 == options.threshold) = true
  plain : journal = ⟨journal.directory, journal.name, options, []⟩
  contents : bytes = [] ∨ middle.readBytes (shownPath middle path options) = .ok bytes

/-- Without a name, the path that a journal knows its file by leads to a directory. -/
theorem isDirectory_shownPath {middle : FileTree} {path : Path} (options : Options)
    (makes : FileTree.MakesDirectory tree middle path.parent)
    (empty : (shownPath middle path options).names = []) :
    middle.isDirectory (shownPath middle path options) = true := by
  rcases FileTree.isDirectory_iff.mp makes.made with ⟨above, _, standing⟩
  rw [shownPath] at empty ⊢
  split at empty
  · rename_i rotates
    rw [if_pos rotates]
    exact isDirectory_rootPath (by rw [FileTree.resolve, Path.isAbsolute]; split <;> rfl) empty
      standing
  · rename_i stays
    rw [if_neg stays]
    exact makes.isDirectory_of_empty empty

theorem exists_opening {path : Path} {options : Options} {after : FileTree}
    (opened : openAt tree path options = .ok (after, journal)) :
    ∃ middle bytes, IsOpening tree middle path options bytes after journal := by
  rcases openAt_steps opened with ⟨middle, bytes, made, contents, written, named, begun⟩
  have makes := FileTree.makesDirectory_of_makeDirectories made
  have directory := isDirectory_shownPath options makes
  rcases FileTree.writeBytes_eq_ok written directory with ⟨place, isPlace, located, rfl⟩
  have plain := begun place located
  have samePlace : journal.place = place := by
    rw [plain, place_mk isPlace.ne_nil]
  refine ⟨middle, bytes, makes, ?_, ?_, ?_, named, ?_, contents⟩
  · rwa [samePlace]
  · rwa [samePlace]
  · rw [samePlace]
  · rw [plain]

/-- A journal that opens has its file, and all other files are what they were. -/
theorem openAt_eq_ok {path : Path} {options : Options} {after : FileTree}
    (opened : openAt tree path options = .ok (after, journal)) :
    journal.IsOpen after.root ∧ KeepsDirectories tree after ∧ ∀ place, place ≠ journal.place →
      after.root.fileAt? place = tree.root.fileAt? place := by
  rcases exists_opening opened with ⟨middle, bytes, makes, isPlace, _, rfl, _, _, _⟩
  have directory := isPlace.directory
  have nonempty := isPlace.ne_nil
  refine ⟨⟨?_, bytes, contentAt?_setAt_self _ _ _⟩, ?_, ?_⟩
  · rw [← dropLast_place, contentAt?_setAt directory (FileTree.not_prefix_dropLast nonempty),
      directory]
  · exact makes.keepsDirectories.trans (FileTree.keepsDirectories_setAt isPlace bytes)
  · intro other different
    rw [fileAt?_setAt isPlace bytes different]
    exact makes.adds.fileAt?

theorem isOpen_bind {values : Table} {root : Entry} :
    (journal.bind values).IsOpen root ↔ journal.IsOpen root :=
  ⟨fun ⟨directory, file⟩ => ⟨directory, file⟩, fun ⟨directory, file⟩ => ⟨directory, file⟩⟩

end Journal

/-- A log that opens leaves all files as they are but that of its journal. -/
theorem CommandLog.open_eq_ok {log : CommandLog} {tree after : FileTree}
    {environment : Settings.Environment} {time : String} {journal : Option Journal}
    (opened : log.open tree environment time = .ok (after, journal)) :
    (∀ kept ∈ journal, kept.IsOpen after.root) ∧ KeepsDirectories tree after ∧
      ∀ place, (∀ kept ∈ journal, place ≠ kept.place) →
        after.root.fileAt? place = tree.root.fileAt? place := by
  rw [CommandLog.open] at opened
  split at opened
  · cases opened
    exact ⟨nofun, .refl _, fun _ _ => rfl⟩
  · rcases bind_eq_ok.mp opened with ⟨⟨written, plain⟩, started, same⟩
    cases same
    rcases Journal.openAt_eq_ok started with ⟨isOpen, keeps, others⟩
    cases unnamed : log.command == "" with
    | true =>
        refine ⟨?_, keeps, fun place foreign => others place (foreign plain rfl)⟩
        intro kept isKept
        cases isKept
        exact isOpen
    | false =>
        refine ⟨?_, keeps, fun place foreign => others place (foreign (plain.bind _) rfl)⟩
        intro kept isKept
        cases isKept
        exact Journal.isOpen_bind.mpr isOpen

end Stencil.Log
