import Stencil.Proofs.Files.Alike
import Stencil.Proofs.Files.Tree
import Stencil.Proofs.Log.Journal

/-!
A journal that is opened again. It finds its file where it left it, as long as no directory bears
the name of one of its old files: then no directory is ever moved, and every path to a directory
stays what it was.
-/

namespace Stencil.Log

open FileTree (KeepsDirectories IsAlike)
open Settings (bind_eq_ok mapError_eq_ok)

namespace Journal

variable {journal : Journal} {tree : FileTree} {before after : Entry}

/-! ## Places of files only -/

/-- The place of the file of a journal, or of an old file. -/
def IsSlot (journal : Journal) (place : List String) : Prop :=
  place = journal.place ∨ ∃ number, place = journal.backupPlace number

/-- No directory stands where the journal keeps its files. -/
def IsFlat (journal : Journal) (root : Entry) : Prop :=
  ∀ place, journal.IsSlot place → root.contentAt? place ≠ some .directory

theorem IsSlot.exists_name {place : List String} (isSlot : journal.IsSlot place) :
    ∃ name, place = journal.directory ++ [name] := by
  rcases isSlot with rfl | ⟨number, rfl⟩
  · exact ⟨_, rfl⟩
  · exact ⟨_, rfl⟩

/-- No file of the journal is below another one. -/
theorem IsSlot.eq_of_prefix {place other : List String} (isSlot : journal.IsSlot place)
    (otherSlot : journal.IsSlot other) (below : place <+: other) : place = other := by
  rcases isSlot.exists_name with ⟨name, rfl⟩
  rcases otherSlot.exists_name with ⟨otherName, rfl⟩
  exact below.eq_of_length (by simp)

theorem IsSlot.ne_nil {place : List String} (isSlot : journal.IsSlot place) : place ≠ [] := by
  rcases isSlot.exists_name with ⟨name, rfl⟩
  exact List.concat_ne_nil name _

/-- A change at one file of the journal shows at no other. -/
theorem IsSlot.contentAt?_setAt {place other : List String} (isSlot : journal.IsSlot place)
    (otherSlot : journal.IsSlot other) (different : other ≠ place) {root entry : Entry} :
    (FileTree.setAt root place entry).contentAt? other = root.contentAt? other :=
  FileTree.contentAt?_setAt_of_apart
    (fun below => different (isSlot.eq_of_prefix otherSlot below).symm)
    (fun above => different (otherSlot.eq_of_prefix isSlot above))

theorem IsSlot.contentAt?_removeAt {place other : List String} (isSlot : journal.IsSlot place)
    (otherSlot : journal.IsSlot other) (different : other ≠ place) {root : Entry}
    (there : (root.descend? place).isSome = true) :
    (FileTree.removeAt root place).contentAt? other = root.contentAt? other :=
  FileTree.contentAt?_removeAt there
    fun below => different (isSlot.eq_of_prefix otherSlot below).symm

/-- No directory is among the places that are covered. -/
theorem IsFlat.not_covers {root : Entry} (flat : journal.IsFlat root) {place : List String}
    (directory : root.contentAt? place = some .directory) : ¬ journal.Covers place := by
  have apart {slot : List String} (isSlot : journal.IsSlot slot) : ¬ slot <+: place := by
    intro below
    by_cases same : place = slot
    · exact flat slot isSlot (same ▸ directory)
    · exact flat slot isSlot (Entry.contentAt?_of_above directory below same)
  rintro (below | ⟨number, below⟩)
  · exact apart (.inl rfl) below
  · exact apart (.inr ⟨number, rfl⟩) below

theorem Keeps.directories (keeps : journal.Keeps before after) (flat : journal.IsFlat before) :
    ∀ place, before.contentAt? place = some .directory →
      after.contentAt? place = some .directory :=
  fun place directory => (keeps place (flat.not_covers directory)).trans directory

section Lines

variable (flat : journal.IsFlat tree.root)

include flat

theorem isFlat_setAt (bytes : Utf8.Bytes) :
    journal.IsFlat (FileTree.setAt tree.root journal.place (.file bytes)) := by
  intro place isSlot
  by_cases same : place = journal.place
  · rw [same, FileTree.contentAt?_setAt_self]
    exact nofun
  · rw [IsSlot.contentAt?_setAt (.inl rfl) isSlot same]
    exact flat place isSlot

theorem isFlat_rename {source : List String} (isSource : journal.IsSlot source) (number : Nat) :
    journal.IsFlat (tree.rename source (journal.backupPlace number)).root := by
  have isTarget : journal.IsSlot (journal.backupPlace number) := .inr ⟨number, rfl⟩
  rw [FileTree.rename]
  split
  · exact flat
  · rename_i entry found
    intro place isSlot
    by_cases target : place = journal.backupPlace number
    · rw [target, FileTree.contentAt?_setAt_self]
      have moved := flat source isSource
      rwa [Entry.contentAt?, found] at moved
    · rw [isTarget.contentAt?_setAt isSlot target]
      by_cases same : place = source
      · rw [same, FileTree.contentAt?_removeAt_self isSource.ne_nil]
        intro isDirectory
        cases isDirectory
      · rw [isSource.contentAt?_removeAt isSlot same (by rw [found]; rfl)]
        exact flat place isSlot

theorem isFlat_shiftBackups (number : Nat) :
    journal.IsFlat (journal.shiftBackups tree number).root := by
  induction number generalizing tree with
  | zero => exact flat
  | succ number induction => exact induction (isFlat_rename flat (.inr ⟨_, rfl⟩) _)

theorem isFlat_rotate (backupCount : Nat) :
    journal.IsFlat (journal.rotate backupCount tree).root := by
  rw [rotate]
  split
  · exact flat
  · exact isFlat_setAt (isFlat_rename (isFlat_shiftBackups flat _) (.inl rfl) 1) []

theorem isFlat_writeLine (line : String) : journal.IsFlat (journal.writeLine tree line).root := by
  rw [writeLine]
  split
  · exact isFlat_setAt flat _
  · split
    · exact isFlat_setAt flat _
    · split
      · exact isFlat_setAt (isFlat_rotate flat _) _
      · exact flat

theorem isFlat_recordEvents (events : List Event) :
    journal.IsFlat (events.foldl journal.recordEvent tree).root := by
  induction events generalizing tree with
  | nil => exact flat
  | cons event later induction =>
      apply induction
      rw [recordEvent, record]
      split
      · exact flat
      · exact isFlat_writeLine flat _

end Lines

/-! ## The working directory -/

theorem working_rename (tree : FileTree) (source target : List String) :
    (tree.rename source target).working = tree.working := by
  rw [FileTree.rename]
  split <;> rfl

theorem working_shiftBackups (tree : FileTree) (number : Nat) :
    (journal.shiftBackups tree number).working = tree.working := by
  induction number generalizing tree with
  | zero => rfl
  | succ number induction => rw [shiftBackups, induction, working_rename]

theorem working_rotate (tree : FileTree) (backupCount : Nat) :
    (journal.rotate backupCount tree).working = tree.working := by
  rw [rotate]
  split
  · rfl
  · exact (working_rename _ _ _).trans (working_shiftBackups tree _)

theorem working_record (tree : FileTree) (level : Level) (event : String) (values : Table) :
    (journal.record tree level event values).working = tree.working := by
  rw [record]
  split
  · rfl
  · rw [writeLine]
    split
    · rfl
    · split
      · rfl
      · split
        · exact working_rotate tree _
        · rfl

/-- A journal of files only moves no directory when it records events. -/
theorem keepsDirectories_recordEvents (isOpen : journal.IsOpen tree.root)
    (flat : journal.IsFlat tree.root) (events : List Event) :
    KeepsDirectories tree (events.foldl journal.recordEvent tree) := by
  refine ⟨?_, (keeps_recordEvents isOpen events).1.directories flat⟩
  clear isOpen flat
  induction events generalizing tree with
  | nil => rfl
  | cons event later induction => exact induction.trans (working_record tree _ _ _)

/-! ## Trees -/

section Trees

variable (isTree : tree.root.IsTree)

include isTree

theorem isTree_append (line : String) : (journal.append tree line).root.IsTree :=
  isTree.setAt (Entry.isTree_file _)

theorem isTree_shiftBackups (number : Nat) : (journal.shiftBackups tree number).root.IsTree := by
  induction number generalizing tree with
  | zero => exact isTree
  | succ number induction => exact induction (FileTree.isTree_rename isTree)

theorem isTree_rotate (backupCount : Nat) : (journal.rotate backupCount tree).root.IsTree := by
  rw [rotate]
  split
  · exact isTree
  · exact (FileTree.isTree_rename (isTree_shiftBackups isTree _)).setAt (Entry.isTree_file [])

theorem isTree_record (level : Level) (event : String) (values : Table) :
    (journal.record tree level event values).root.IsTree := by
  rw [record]
  split
  · exact isTree
  · rw [writeLine]
    split
    · exact isTree_append isTree _
    · split
      · exact isTree_append isTree _
      · split
        · exact isTree_append (isTree_rotate isTree _) _
        · exact isTree

theorem isTree_recordEvents (events : List Event) :
    (events.foldl journal.recordEvent tree).root.IsTree := by
  induction events generalizing tree with
  | nil => exact isTree
  | cons event later induction => exact induction (isTree_record isTree _ _ _)

theorem isTree_openAt {path : Path} {options : Options} {opened : FileTree}
    (opens : openAt tree path options = .ok (opened, journal)) : opened.root.IsTree := by
  rcases openAt_steps opens with ⟨middle, bytes, made, _, written, _⟩
  exact FileTree.isTree_writeBytes (FileTree.isTree_makeDirectories isTree made) written

end Trees

/-! ## Opening again -/

/-- A journal that opened opens again, at the same place and with nothing changed. -/
theorem openAt_again {path : Path} {options later : Options} {opened after : FileTree}
    (opens : openAt tree path options = .ok (opened, journal))
    (threshold : later.threshold = options.threshold) (rotation : later.rotation = options.rotation)
    (keeps : KeepsDirectories opened after)
    (file : ∃ bytes, after.root.contentAt? journal.place = some (.file bytes)) :
    ∃ again, openAt after path later = .ok (again, { journal with options := later }) ∧
      IsAlike after again := by
  rcases file with ⟨bytes, isFile⟩
  rcases exists_opening opens with ⟨middle, old, makes, isPlace, _, written, named, plain, _⟩
  have middleKeeps : KeepsDirectories middle after := by
    rw [written] at keeps
    exact (FileTree.keepsDirectories_setAt isPlace old).trans keeps
  have shown : (if later.rotation.isSome then after.resolve path else path) =
      shownPath middle path options := by
    rw [shownPath, rotation, FileTree.resolve, FileTree.resolve, middleKeeps.working]
  have leads : after.locate (shownPath middle path options) = .ok journal.place :=
    isPlace.leads after middleKeeps (by rw [isFile]; rfl)
  have top := FileTree.contentAt?_nil_of_directory (middleKeeps.kept _ isPlace.directory)
  have alike := FileTree.isAlike_setAt isFile top
  have made := FileTree.makeDirectories_of_isDirectory (middleKeeps.isDirectory makes.made)
  have read := FileTree.readBytes_of_file leads isFile
  have rewritten := @FileTree.writeBytes_of_file after _ _ bytes _ leads isFile
  have known : (!thresholdNames.any (·.2 == later.threshold)) = false := by
    rw [threshold, named]
    rfl
  refine ⟨_, ?_, alike⟩
  have same : (⟨journal.place.dropLast, journal.place.getLast?.getD "", later, []⟩ : Journal) =
      { journal with options := later } := by
    rw [dropLast_place, Journal.place, List.getLast?_concat, Option.getD_some,
      show journal.bound = [] from congrArg bound plain]
  refine bind_eq_ok.mpr ⟨after, mapError_eq_ok.mpr made, ?_⟩
  simp only [shown, read]
  refine bind_eq_ok.mpr ⟨bytes, rfl, ?_⟩
  refine bind_eq_ok.mpr ⟨_, mapError_eq_ok.mpr rewritten, ?_⟩
  rw [known, if_neg Bool.false_ne_true, alike.locate, leads, ← same]
  rfl

end Journal

namespace CommandLog

variable {log : CommandLog} {tree opened : FileTree} {environment : Settings.Environment}
  {time : String} {journal : Option Journal}

theorem isTree_open (isTree : tree.root.IsTree)
    (opens : log.open tree environment time = .ok (opened, journal)) : opened.root.IsTree := by
  rw [CommandLog.open] at opens
  split at opens
  · cases opens
    exact isTree
  · rcases bind_eq_ok.mp opens with ⟨⟨written, plain⟩, started, same⟩
    cases same
    exact Journal.isTree_openAt isTree started

/-- A log that opened opens again at another time, and nothing changes. Its journal, if it keeps
one, has the place that it had. -/
theorem open_again (opens : log.open tree environment time = .ok (opened, journal))
    {after : FileTree} (keeps : KeepsDirectories opened after)
    (file : ∀ kept ∈ journal, ∃ bytes, after.root.contentAt? kept.place = some (.file bytes))
    (later : String) :
    ∃ again options, log.open after environment later =
        .ok (again, journal.map fun kept => { kept with options }) ∧
      IsAlike after again := by
  rw [CommandLog.open] at opens
  split at opens
  · rename_i unnamed
    cases opens
    refine ⟨after, ⟨0, .json, none, ""⟩, ?_, .refl after⟩
    rw [CommandLog.open, if_pos unnamed]
    rfl
  · rename_i named
    rcases bind_eq_ok.mp opens with ⟨⟨written, plain⟩, started, same⟩
    cases same
    have there : ∃ bytes, after.root.contentAt? plain.place = some (.file bytes) := by
      have found := file _ rfl
      split at found <;> exact found
    let options : Options :=
      { threshold := thresholdFor environment log.level, format := log.format,
        rotation := log.rotation, time := later }
    rcases @Journal.openAt_again plain tree _ _ options _ _ started rfl rfl keeps there with
      ⟨again, reopened, alike⟩
    refine ⟨again, options, ?_, alike⟩
    rw [CommandLog.open, if_neg named]
    refine bind_eq_ok.mpr ⟨(again, { plain with options }), reopened, ?_⟩
    dsimp only [Option.map_some]
    split <;> rfl

end CommandLog

end Stencil.Log
