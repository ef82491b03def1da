import Stencil.Proofs.Assembly.Sight
import Stencil.Proofs.CommandLine.Delivery
import Stencil.Proofs.Log.Reopening

/-!
Conversions in a session that keeps a log. A log of files only leaves all directories where they
are. If the conversion does not read the log, the session does not show in what it comes to.
-/

namespace Stencil.CommandLine

open Assembly (KeepsRead ReadsAlike ReadsPlace)
open FileTree (IsAlikeBut KeepsDirectories)

/-! ## Directories under a session -/

namespace Session

variable {session : Session} {files : FileTree}

/-- No directory stands where the session keeps its log. -/
def IsFlat (session : Session) (files : FileTree) : Prop :=
  ∀ journal ∈ session.journal, journal.IsFlat files.root

/-- A log of files only leaves all directories where they are. -/
theorem recordAll_directories (ready : session.IsReady files) (flat : session.IsFlat files)
    (events : List Event) :
    KeepsDirectories files (session.recordAll files events) ∧
      session.IsFlat (session.recordAll files events) := by
  rw [recordAll]
  cases kept : session.journal with
  | none => exact ⟨.refl files, flat⟩
  | some journal =>
      have isFlat := flat journal kept
      refine ⟨Log.Journal.keepsDirectories_recordEvents (ready journal kept) isFlat events, ?_⟩
      intro other isOther
      cases kept.symm.trans isOther
      exact Log.Journal.isFlat_recordEvents isFlat events

theorem isTree_recordAll (isTree : files.root.IsTree) (events : List Event) :
    (session.recordAll files events).root.IsTree := by
  rw [recordAll]
  split
  · exact isTree
  · exact Log.Journal.isTree_recordEvents isTree events

/-- A place that is no directory does not become one when events are recorded. -/
theorem recordAll_noDirectory (ready : session.IsReady files) (flat : session.IsFlat files)
    (events : List Event) {place : List String}
    (noDirectory : files.root.contentAt? place ≠ some .directory) :
    (session.recordAll files events).root.contentAt? place ≠ some .directory := by
  rcases recordAll_directories ready flat events with ⟨_, flatAfter⟩
  by_cases owned : session.OwnsPlace place
  · rcases owned with ⟨journal, kept, rfl | ⟨number, below⟩⟩
    · exact flatAfter journal kept _ (.inl rfl)
    · intro directory
      have backup := flatAfter journal kept (journal.backupPlace number) (.inr ⟨number, rfl⟩)
      by_cases same : place = journal.backupPlace number
      · exact backup (same ▸ directory)
      · exact backup (Entry.contentAt?_of_above directory below same)
  · rw [(recordAll_keeps ready events).2 place owned]
    exact noDirectory

end Session

/-! ## Conversions that do not read the log -/

section Unread

variable {session : Session} {files : FileTree} {path : Path} {minified validate : Bool}
  {exclude : List String} {entries : List (String × Entry)} {source : String}

theorem find_of_convertDirectory_ok
    (ok : (convertDirectory files path minified validate exclude).result = .ok source) :
    ∃ entries, files.find path = .ok (.directory entries) := by
  rcases Run.bind_result_eq_ok ok with ⟨scope, assembled, _⟩
  rw [assemble] at assembled
  split at assembled
  · cases assembled
  · exact ⟨_, ‹_›⟩
  · cases assembled

theorem find_of_convertDirectory_decoding {error : Utf8.DecodeError}
    (failed : (convertDirectory files path minified validate exclude).result =
      .error (.reading (.decoding error))) :
    ∃ entries, files.find path = .ok (.directory entries) := by
  by_contra noDirectory
  rw [convertDirectory, assemble] at failed
  split at failed
  · cases failed
  · exact noDirectory ⟨_, ‹_›⟩
  · cases failed

theorem emitScope_ne_decoding (scope : Scope) (error : Utf8.DecodeError) :
    (emitScope scope validate).result ≠ .error (.reading (.decoding error)) := by
  rw [emitScope]
  intro failed
  cases emitted : emitModule scope validate with
  | error fault =>
      rw [emitted] at failed
      cases failed
  | ok source =>
      rw [emitted] at failed
      cases failed

/-- The files differ in nothing but what is in the file of the log. -/
theorem isAlikeBut_marked (ready : session.IsReady files) {journal : Log.Journal}
    (kept : journal ∈ session.journal) (bytes : Utf8.Bytes) :
    IsAlikeBut (· = journal.place) files
      { files with root := FileTree.setAt files.root journal.place (.file bytes) } := by
  have isOpen := ready journal kept
  rcases isOpen.file with ⟨old, isFile⟩
  exact FileTree.isAlikeBut_setAt isFile (FileTree.contentAt?_nil_of_directory isOpen.directory)

variable (isTree : files.root.IsTree) (ready : session.IsReady files)
  (unread : ∀ place, ReadsPlace files path exclude place → ¬ session.OwnsPlace place)

include isTree ready unread

theorem convertDirectory_marked {journal : Log.Journal} (kept : journal ∈ session.journal)
    (found : files.find path = .ok (.directory entries)) (bytes : Utf8.Bytes) :
    (convertDirectory { files with root := FileTree.setAt files.root journal.place (.file bytes) }
        path minified validate exclude).result =
      (convertDirectory files path minified validate exclude).result := by
  have alike := isAlikeBut_marked ready kept bytes
  rcases Assembly.exists_found_of_keeps alike.keepsDirectories found with ⟨others, foundMarked⟩
  have reads : ReadsAlike path exclude files _ := Assembly.readsAlike_of_isAlikeBut alike
    (fun place isRead same => unread place isRead ⟨journal, kept, .inl same⟩) found
  exact (Assembly.convertDirectory_of_readsAlike isTree (isTree.setAt (Entry.isTree_file bytes))
    found foundMarked reads validate).symm

/-- A conversion that succeeds on the files as they are finds them so in a session. -/
theorem filesFor_of_ok
    (ok : (convertDirectory files path minified validate exclude).result = .ok source) :
    session.filesFor files (convertDirectory · path minified validate exclude) = files := by
  rw [Session.filesFor]
  split
  · rfl
  · rename_i journal kept
    rcases find_of_convertDirectory_ok ok with ⟨entries, found⟩
    have marked := (convertDirectory_marked isTree ready unread kept found [0xff]).trans ok
    simp only [marked]

/-- A conversion that succeeds in a session succeeds on the files as they are. If it were stopped
there by bytes that are no text, it would also be stopped by them in the session. -/
theorem convertDirectory_of_session (flat : session.IsFlat files)
    (ok : (convertDirectory
      (session.filesFor files (convertDirectory · path minified validate exclude))
      path minified validate exclude).result = .ok source) :
    (convertDirectory files path minified validate exclude).result = .ok source := by
  rw [Session.filesFor] at ok
  split at ok
  · exact ok
  · rename_i journal kept
    dsimp only at ok
    split at ok
    · rename_i error stopped
      rcases find_of_convertDirectory_decoding stopped with ⟨others, foundMarked⟩
      have back := (isAlikeBut_marked ready kept [0xff]).symm.keepsDirectories
      rcases Assembly.exists_found_of_keeps back foundMarked with ⟨entries, found⟩
      have keeps (events : List Event) :
          KeepsRead path exclude files (session.recordAll files events) :=
        ⟨(Session.recordAll_directories ready flat events).1, fun place isRead =>
          (Session.recordAll_keeps ready events).2 place (unread place isRead)⟩
      rcases Run.bind_result_eq_ok ok with ⟨scope, assembled, _⟩
      rcases (keeps _).exists_scope isTree (Session.isTree_recordAll isTree _) found assembled with
        ⟨other, same⟩
      rw [convertDirectory_marked isTree ready unread kept found, convertDirectory,
        Run.bind_result_of_ok same] at stopped
      exact absurd stopped (emitScope_ne_decoding other error)
    · exact ok

omit isTree ready unread

/-- A conversion that succeeds in a session succeeds with the same source in one whose files read
alike. -/
theorem convertDirectory_again {other : Session} {again : FileTree} (isTree : files.root.IsTree)
    (ready : session.IsReady files) (flat : session.IsFlat files)
    (unread : ∀ place, ReadsPlace files path exclude place → ¬ session.OwnsPlace place)
    (againTree : again.root.IsTree) (againReady : other.IsReady again)
    (owns : ∀ place, other.OwnsPlace place → session.OwnsPlace place)
    (keeps : KeepsDirectories files again) (reads : ReadsAlike path exclude files again)
    (ok : (convertDirectory
      (session.filesFor files (convertDirectory · path minified validate exclude))
      path minified validate exclude).result = .ok source) :
    (convertDirectory (other.filesFor again (convertDirectory · path minified validate exclude))
      path minified validate exclude).result = .ok source := by
  have plain := convertDirectory_of_session isTree ready unread flat ok
  rcases find_of_convertDirectory_ok plain with ⟨entries, found⟩
  rcases Assembly.exists_found_of_keeps keeps found with ⟨others, foundAgain⟩
  have plainAgain : (convertDirectory again path minified validate exclude).result = .ok source :=
    (Assembly.convertDirectory_of_readsAlike isTree againTree found foundAgain reads
      validate).symm.trans plain
  have unreadAgain : ∀ place, ReadsPlace again path exclude place → ¬ other.OwnsPlace place :=
    fun place isRead owned => unread place (reads.readsPlace keeps found isRead) (owns place owned)
  rw [filesFor_of_ok againTree againReady unreadAgain plainAgain]
  exact plainAgain

end Unread

end Stencil.CommandLine
