import Stencil.Proofs.Log.Reopening
import Stencil.Proofs.Number.Numeral

/-!
What rotation makes of the files of a journal. Each backup gets the contents of the one before it,
the first those of the file, and the file is empty. So a journal that finds nothing but its own
files holds segments of lines, one in each file, and a line either comes to the end of the newest
segment or begins a new one, for which the oldest goes.
-/

namespace Stencil.Log

open FileTree (contentAt?_setAt_self contentAt?_removeAt_self)

namespace Journal

variable {journal : Journal} {tree : FileTree}

/-! ## Backups by their numbers -/

theorem isSlot_backupPlace (journal : Journal) (number : Nat) :
    journal.IsSlot (journal.backupPlace number) :=
  .inr ⟨number, rfl⟩

theorem backupPlace_injective {number other : Nat}
    (same : journal.backupPlace number = journal.backupPlace other) : number = other := by
  have names := (List.append_inj' same rfl).2
  rw [List.singleton_inj, backupName, backupName] at names
  exact toString_injective (by simpa [String.ext_iff] using names)

theorem backupPlace_ne {number other : Nat} (different : number ≠ other) :
    journal.backupPlace number ≠ journal.backupPlace other :=
  fun same => different (backupPlace_injective same)

/-- A backup has a longer name than the file. -/
theorem place_ne_backupPlace (journal : Journal) (number : Nat) :
    journal.place ≠ journal.backupPlace number := by
  intro same
  have names := (List.append_inj' same rfl).2
  have longer := congrArg String.length (List.singleton_inj.mp names)
  have parts : journal.backupName number = journal.name ++ "." ++ toString number := rfl
  rw [parts, String.length_append, String.length_append] at longer
  have point : ".".length = 1 := rfl
  omega

/-! ## Files that move -/

section Rename

variable {source target : List String} (isSource : journal.IsSlot source)
  (isTarget : journal.IsSlot target)

include isSource isTarget

theorem contentAt?_rename_other {place : List String} (isSlot : journal.IsSlot place)
    (notSource : place ≠ source) (notTarget : place ≠ target) :
    (tree.rename source target).root.contentAt? place = tree.root.contentAt? place := by
  rw [FileTree.rename]
  split
  · rfl
  · rename_i entry found
    rw [isTarget.contentAt?_setAt isSlot notTarget]
    exact isSource.contentAt?_removeAt isSlot notSource (by rw [found]; rfl)

theorem contentAt?_rename_source (different : source ≠ target) :
    (tree.rename source target).root.contentAt? source = none := by
  rw [FileTree.rename]
  split
  · rename_i missing
    exact Entry.contentAt?_eq_none_iff.mpr missing
  · rw [isTarget.contentAt?_setAt isSource different]
    exact contentAt?_removeAt_self isSource.ne_nil

omit isSource isTarget in
theorem contentAt?_rename_target
    (vacant : tree.root.contentAt? source = none → tree.root.contentAt? target = none) :
    (tree.rename source target).root.contentAt? target = tree.root.contentAt? source := by
  rw [FileTree.rename]
  split
  · rename_i missing
    have absent := Entry.contentAt?_eq_none_iff.mpr missing
    rw [absent, vacant absent]
  · rename_i entry found
    rw [contentAt?_setAt_self, Entry.contentAt?, found]
    rfl

end Rename

/-- Moving the backups up gives each the contents of the one before. It goes from the last to the
first, so that none is lost as long as there is no gap among them. -/
theorem contentAt?_shiftBackups {number : Nat}
    (closed : ∀ other < number, tree.root.contentAt? (journal.backupPlace (other + 1)) = none →
      tree.root.contentAt? (journal.backupPlace (other + 2)) = none) :
    (∀ other < number, (journal.shiftBackups tree number).root.contentAt?
        (journal.backupPlace (other + 2)) =
      tree.root.contentAt? (journal.backupPlace (other + 1))) ∧
    ∀ place, journal.IsSlot place → (∀ other ≤ number, place ≠ journal.backupPlace (other + 1)) →
      (journal.shiftBackups tree number).root.contentAt? place = tree.root.contentAt? place := by
  induction number generalizing tree with
  | zero => exact ⟨nofun, fun _ _ _ => rfl⟩
  | succ number induction =>
      have isSource := isSlot_backupPlace journal (number + 1)
      have isTarget := isSlot_backupPlace journal (number + 2)
      have vacant := closed number (Nat.lt_succ_self number)
      rw [shiftBackups]
      generalize renamed : tree.rename (journal.backupPlace (number + 1))
        (journal.backupPlace (number + 2)) = moved
      have vacated : moved.root.contentAt? (journal.backupPlace (number + 1)) = none :=
        renamed ▸ contentAt?_rename_source isSource isTarget (backupPlace_ne (by omega))
      have last : moved.root.contentAt? (journal.backupPlace (number + 2)) =
          tree.root.contentAt? (journal.backupPlace (number + 1)) :=
        renamed ▸ contentAt?_rename_target vacant
      have others {place : List String} (isSlot : journal.IsSlot place)
          (notSource : place ≠ journal.backupPlace (number + 1))
          (notTarget : place ≠ journal.backupPlace (number + 2)) :
          moved.root.contentAt? place = tree.root.contentAt? place :=
        renamed ▸ contentAt?_rename_other isSource isTarget isSlot notSource notTarget
      have below (other : Nat) (before : other < number) :
          moved.root.contentAt? (journal.backupPlace (other + 1)) =
            tree.root.contentAt? (journal.backupPlace (other + 1)) :=
        others (isSlot_backupPlace journal _) (backupPlace_ne (by omega))
          (backupPlace_ne (by omega))
      -- The gap that the last backup leaves is at the end of those that still have to move.
      have stillClosed : ∀ other < number,
          moved.root.contentAt? (journal.backupPlace (other + 1)) = none →
            moved.root.contentAt? (journal.backupPlace (other + 2)) = none := by
        intro other before missing
        by_cases next : other + 1 = number
        · rwa [← next] at vacated
        · rw [below (other + 1) (by omega)]
          rw [below other before] at missing
          exact closed other (by omega) missing
      rcases induction stillClosed with ⟨shifted, kept⟩
      refine ⟨?_, ?_⟩
      · intro other before
        by_cases isLast : other = number
        · rw [isLast, kept _ isTarget fun one _ => backupPlace_ne (by omega), last]
        · rw [shifted other (by omega), below other (by omega)]
      · intro place isSlot apart
        rw [kept place isSlot fun other before => apart other (by omega)]
        exact others isSlot (apart number (by omega)) (apart (number + 1) (by omega))

/-- Rotation gives each backup the contents of the one before, and the first those of the file,
which is empty then. -/
theorem contentAt?_rotate {count : Nat} {file : Content}
    (found : tree.root.contentAt? journal.place = some file)
    (closed : ∀ other < count, tree.root.contentAt? (journal.backupPlace (other + 1)) = none →
      tree.root.contentAt? (journal.backupPlace (other + 2)) = none) {rotated : Entry}
    (rotates : (journal.rotate (count + 1) tree).root = rotated) :
    rotated.contentAt? journal.place = some (.file []) ∧
      rotated.contentAt? (journal.backupPlace 1) = some file ∧
      (∀ other < count, rotated.contentAt? (journal.backupPlace (other + 2)) =
        tree.root.contentAt? (journal.backupPlace (other + 1))) ∧
      ∀ place, journal.IsSlot place → place ≠ journal.place →
        (∀ other ≤ count, place ≠ journal.backupPlace (other + 1)) →
          rotated.contentAt? place = tree.root.contentAt? place := by
  have isPlace : journal.IsSlot journal.place := .inl rfl
  have isFirst := isSlot_backupPlace journal 1
  have apart (number : Nat) := place_ne_backupPlace journal number
  rcases contentAt?_shiftBackups closed with ⟨shifted, kept⟩
  have stillFound : (journal.shiftBackups tree count).root.contentAt? journal.place = some file :=
    (kept _ isPlace fun _ _ => apart _).trans found
  have isRotated : rotated = FileTree.setAt
      ((journal.shiftBackups tree count).rename journal.place (journal.backupPlace 1)).root
      journal.place (.file []) := rotates.symm
  have others {place : List String} (isSlot : journal.IsSlot place)
      (notPlace : place ≠ journal.place) (notFirst : place ≠ journal.backupPlace 1) :
      rotated.contentAt? place = (journal.shiftBackups tree count).root.contentAt? place := by
    rw [isRotated, IsSlot.contentAt?_setAt isPlace isSlot notPlace]
    exact contentAt?_rename_other isPlace isFirst isSlot notPlace notFirst
  refine ⟨?_, ?_, ?_, ?_⟩
  · rw [isRotated, contentAt?_setAt_self]
    rfl
  · rw [isRotated, IsSlot.contentAt?_setAt isPlace isFirst (apart 1).symm]
    refine (contentAt?_rename_target fun missing => ?_).trans stillFound
    rw [stillFound] at missing
    cases missing
  · intro other before
    rw [others (isSlot_backupPlace journal _) (apart _).symm (backupPlace_ne (by omega))]
    exact shifted other before
  · intro place isSlot notPlace notBackup
    rw [others isSlot notPlace (notBackup 0 (Nat.zero_le count))]
    exact kept place isSlot notBackup

/-! ## Segments -/

/-- The places of the files of a journal, the newest first: that of its file, then those of its
backups. -/
def slot (journal : Journal) : Nat → List String
  | 0 => journal.place
  | number + 1 => journal.backupPlace (number + 1)

/-- The bytes of lines that follow each other. -/
def bytesOf (lines : List String) : Utf8.Bytes := lines.flatMap Utf8.encode

theorem bytesOf_append (lines others : List String) :
    bytesOf (lines ++ others) = bytesOf lines ++ bytesOf others :=
  List.flatMap_append

theorem bytesOf_flatten (segments : List (List String)) :
    bytesOf segments.flatten = segments.flatMap bytesOf := by
  induction segments with
  | nil => rfl
  | cons first later induction =>
      rw [List.flatten_cons, bytesOf_append, induction, List.flatMap_cons]

theorem contentsAt_of_file {place : List String} {bytes : Utf8.Bytes}
    (file : tree.root.contentAt? place = some (.file bytes)) : contentsAt tree place = bytes := by
  rw [contentsAt, Entry.contentAt?_eq_file_iff.mp file]

/-- The files of a journal hold lines: its own file holds the first segment, the backups under one,
two and so on the later ones, and there is no other backup. -/
structure Holds (journal : Journal) (root : Entry) (segments : List (List String)) : Prop where
  slots : ∀ number, root.contentAt? (journal.slot number) =
    segments[number]?.map fun lines => .file (bytesOf lines)
  unnumbered : root.contentAt? (journal.backupPlace 0) = none

namespace Holds

variable {segments later : List (List String)} {first : List String} {backupCount : Nat}

theorem append (holds : journal.Holds tree.root (first :: later)) (line : String) :
    journal.Holds (journal.append tree line).root ((first ++ [line]) :: later) := by
  have contents : contentsAt tree journal.place = bytesOf first :=
    contentsAt_of_file (holds.slots 0)
  have others (number : Nat) :
      (journal.append tree line).root.contentAt? (journal.backupPlace number) =
        tree.root.contentAt? (journal.backupPlace number) :=
    IsSlot.contentAt?_setAt (.inl rfl) (isSlot_backupPlace journal number)
      (place_ne_backupPlace journal number).symm
  constructor
  · intro number
    cases number with
    | zero =>
        refine (contentAt?_setAt_self _ _ _).trans ?_
        simp [contents, Entry.content, bytesOf]
    | succ number => exact (others (number + 1)).trans (holds.slots (number + 1))
  · exact (others 0).trans holds.unnumbered

/-- Each segment becomes the one after, and the file is empty. -/
theorem rotate {count : Nat} (holds : journal.Holds tree.root (first :: later))
    (bounded : later.length ≤ count + 1) :
    journal.Holds (journal.rotate (count + 1) tree).root ([] :: first :: later.take count) := by
  have closed : ∀ other < count,
      tree.root.contentAt? (journal.backupPlace (other + 1)) = none →
        tree.root.contentAt? (journal.backupPlace (other + 2)) = none := by
    intro other _ missing
    have none := (holds.slots (other + 1)).symm.trans missing
    rw [Option.map_eq_none_iff, List.getElem?_eq_none_iff] at none
    refine (holds.slots (other + 2)).trans ?_
    rw [List.getElem?_eq_none (by omega), Option.map_none]
  rcases contentAt?_rotate (holds.slots 0) closed rfl with ⟨file, backup, backups, others⟩
  have isSlot (number : Nat) := isSlot_backupPlace journal number
  have notPlace (number : Nat) := (place_ne_backupPlace journal number).symm
  constructor
  · intro number
    match number with
    | 0 => exact file
    | 1 => exact backup
    | number + 2 =>
        by_cases moves : number < count
        · refine (backups number moves).trans ((holds.slots (number + 1)).trans ?_)
          simp only [List.getElem?_cons_succ, List.getElem?_take_of_lt moves]
        · -- Beyond the last backup there is nothing, before or after.
          refine (others _ (isSlot _) (notPlace _) fun other _ => backupPlace_ne (by omega)).trans
            ((holds.slots (number + 2)).trans ?_)
          rw [List.getElem?_eq_none (by simp; omega), List.getElem?_eq_none (by simp; omega)]
  · rw [others _ (isSlot 0) (notPlace 0) fun other _ => backupPlace_ne (by omega)]
    exact holds.unnumbered

theorem ne_directory (holds : journal.Holds tree.root segments) (number : Nat) :
    tree.root.contentAt? (journal.backupPlace number) ≠ some .directory := by
  cases number with
  | zero =>
      rw [holds.unnumbered]
      exact nofun
  | succ number =>
      intro isDirectory
      rw [show journal.backupPlace (number + 1) = journal.slot (number + 1) from rfl, holds.slots,
        Option.map_eq_some_iff] at isDirectory
      rcases isDirectory with ⟨_, _, absurdity⟩
      cases absurdity

/-- Among files only, nothing but a name that is too long keeps a journal from rotating. -/
theorem canRotate (holds : journal.Holds tree.root segments)
    (fits : ∀ number ≤ backupCount, journal.canBear number = true) :
    journal.canRotate backupCount tree = true := by
  have noDirectory :
      (tree.root.descend? (journal.backupPlace backupCount)).any (·.isDirectory) = false := by
    have isFile := holds.ne_directory backupCount
    rw [Entry.contentAt?] at isFile
    cases found : tree.root.descend? (journal.backupPlace backupCount) with
    | none => rfl
    | some entry =>
        cases entry with
        | file bytes => rfl
        | directory entries =>
            rw [found] at isFile
            exact absurd rfl isFile
  rw [Journal.canRotate, List.all_eq_true]
  intro number below
  have short := fits (number + 1) (List.mem_range.mp below)
  simp [noDirectory, short]

end Holds

/-- The last of some lines, and at least the very last if there are any. -/
structure IsEnd (kept lines : List String) : Prop where
  isSuffix : kept <:+ lines
  keepsLast : kept = [] → lines = []

/-- What becomes of the segments with another line: it comes to the end of the first, or begins a
new one, and of the old ones no more stay than there may be backups. -/
inductive Grows (backupCount : Nat) (line : String) :
    List (List String) → List (List String) → Prop where
  | added (first : List String) (later : List (List String)) :
      Grows backupCount line (first :: later) ((first ++ [line]) :: later)
  | begun (segments : List (List String)) :
      Grows backupCount line segments ([line] :: segments.take backupCount)

namespace Grows

variable {backupCount : Nat} {line : String} {segments grown : List (List String)}
  {lines : List String}

theorem length_le (grows : Grows backupCount line segments grown)
    (bounded : segments.length ≤ backupCount + 1) : grown.length ≤ backupCount + 1 := by
  cases grows with
  | added first later => exact bounded
  | begun segments => simp

theorem ne_nil (grows : Grows backupCount line segments grown) : grown ≠ [] := by
  cases grows <;> exact List.cons_ne_nil _ _

/-- Only the oldest segments go. -/
theorem suffix (grows : Grows backupCount line segments grown)
    (isSuffix : segments.reverse.flatten <:+ lines) :
    grown.reverse.flatten <:+ lines ++ [line] := by
  rcases isSuffix with ⟨dropped, rfl⟩
  cases grows with
  | added first later => exact ⟨dropped, by simp⟩
  | begun segments =>
      rcases List.reverse_suffix.mpr (List.take_prefix backupCount segments) with ⟨oldest, kept⟩
      refine ⟨dropped ++ oldest.flatten, ?_⟩
      rw [← kept]
      simp

theorem isEnd (grows : Grows backupCount line segments grown)
    (isEnd : IsEnd segments.reverse.flatten lines) :
    IsEnd grown.reverse.flatten (lines ++ [line]) := by
  refine ⟨grows.suffix isEnd.isSuffix, ?_⟩
  intro nothing
  cases grows <;> simp at nothing

end Grows

/-- A journal whose backups can bear their numbers. -/
def Fits (journal : Journal) (rotation : Rotation) : Prop :=
  ∀ number ≤ rotation.backupCount.toNat, journal.canBear number = true

/-- A line that is written makes the segments grow. -/
theorem Holds.writeLine {rotation : Rotation} {segments : List (List String)}
    (rotates : journal.options.rotation = some rotation)
    (fits : journal.Fits rotation) (holds : journal.Holds tree.root segments)
    (nonempty : segments ≠ []) (bounded : segments.length ≤ rotation.backupCount.toNat + 1)
    (line : String) :
    ∃ grown, Grows rotation.backupCount.toNat line segments grown ∧
      journal.Holds (journal.writeLine tree line).root grown := by
  cases segments with
  | nil => exact absurd rfl nonempty
  | cons first later =>
      simp only [Journal.writeLine, rotates, holds.canRotate fits, if_true]
      split
      · exact ⟨_, .added first later, holds.append line⟩
      · cases count : rotation.backupCount.toNat with
        | zero => exact ⟨_, .added first later, holds.append line⟩
        | succ number =>
            have room : later.length ≤ number + 1 := by
              rw [count, List.length_cons] at bounded
              omega
            exact ⟨_, .begun _, (holds.rotate room).append line⟩

end Journal

end Stencil.Log
