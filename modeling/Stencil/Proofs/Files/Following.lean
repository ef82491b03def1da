import Stencil.Proofs.Files.Content

/-!
Where paths lead, and what the operations on them leave. A path leads to the same place in every
tree that has what stood on its way. An operation that succeeds changes the place of its path, and
making directories only adds some.
-/

namespace Stencil.FileTree

open Entry

/-! ## Following names -/

section Follow

variable {root : Entry} {reached found names : List String} {name : String}

theorem isSome_find?_iff {place : List String} {entries : List (String × Entry)}
    (directory : root.descend? place = some (.directory entries)) (name : String) :
    (entries.find? (·.1 == name)).isSome = true ↔
      (root.contentAt? (place ++ [name])).isSome = true := by
  rw [contentAt?_append, directory, Option.bind_some, contentAt?_cons, child?, Entry.entries]
  cases entries.find? (·.1 == name) <;> simp [contentAt?_nil]

/-- A step to the directory above, or to an entry that is there. -/
theorem follow_cons_eq_ok_iff :
    follow root reached (name :: names) = .ok found ↔
      root.contentAt? reached.reverse = some .directory ∧ name.utf8ByteSize ≤ longestName ∧
        if name = ".." then follow root reached.tail names = .ok found
        else (root.contentAt? (reached.reverse ++ [name])).isSome = true ∧
          follow root (name :: reached) names = .ok found := by
  rw [follow, contentAt?_eq_directory_iff]
  cases here : root.descend? reached.reverse with
  | none => simp
  | some entry =>
      cases entry with
      | file bytes => simp
      | directory entries =>
          have isDirectory : ∃ inner, some (directory entries) = some (directory inner) :=
            ⟨entries, rfl⟩
          rw [← isSome_find?_iff here name, and_iff_right isDirectory]
          dsimp only
          by_cases long : longestName < name.utf8ByteSize
          · simp [long, Nat.not_le.mpr long]
          · rw [if_neg long, and_iff_right (Nat.not_lt.mp long)]
            by_cases up : name = ".."
            · rw [if_pos up, if_pos (beq_iff_eq.mpr up)]
            · rw [if_neg up, if_neg (by simpa using up)]
              split <;> simp [*]

theorem follow_append (root : Entry) (reached names later : List String) :
    follow root reached (names ++ later) =
      follow root reached names >>= fun found => follow root found later := by
  induction names generalizing reached with
  | nil => rfl
  | cons name names induction =>
      rw [List.cons_append, follow, follow]
      split
      · rfl
      · rfl
      · split
        · rfl
        · split
          · exact induction reached.tail
          · split
            · exact induction (name :: reached)
            · rfl

/-- All on the way but the last is a directory, so the way stays if directories and the last do. -/
theorem follow_of_directories {after : Entry}
    (directories : ∀ place, root.contentAt? place = some .directory →
      after.contentAt? place = some .directory)
    (present : (after.contentAt? found.reverse).isSome = true)
    (followed : follow root reached names = .ok found) :
    follow after reached names = .ok found := by
  induction names generalizing reached with
  | nil => exact followed
  | cons name names induction =>
      rcases follow_cons_eq_ok_iff.mp followed with ⟨directory, short, further⟩
      refine follow_cons_eq_ok_iff.mpr ⟨directories _ directory, short, ?_⟩
      split
      · rename_i up
        rw [if_pos up] at further
        exact induction further
      · rename_i down
        rw [if_neg down] at further
        refine ⟨?_, induction further.2⟩
        cases names with
        | nil =>
            cases further.2
            rwa [List.reverse_cons] at present
        | cons next names =>
            have below := (follow_cons_eq_ok_iff.mp further.2).1
            rw [List.reverse_cons] at below
            rw [directories _ below]
            rfl

theorem contentAt?_nil_of_directory {place : List String}
    (directory : root.contentAt? place = some .directory) :
    root.contentAt? [] = some .directory := by
  by_cases empty : place = []
  · exact empty ▸ directory
  · exact contentAt?_of_above directory List.nil_prefix empty

/-- Names that lead somewhere lead from a directory to something that is there. -/
theorem isSome_of_follow (followed : follow root reached names = .ok found)
    (nonempty : names ≠ []) :
    root.contentAt? [] = some .directory ∧ (root.contentAt? found.reverse).isSome = true := by
  induction names generalizing reached with
  | nil => exact absurd rfl nonempty
  | cons name names induction =>
      rcases follow_cons_eq_ok_iff.mp followed with ⟨directory, _, further⟩
      refine ⟨contentAt?_nil_of_directory directory, ?_⟩
      by_cases last : names = []
      · subst last
        split at further
        · cases further
          by_cases top : reached = []
          · rw [top] at directory ⊢
            exact Option.isSome_of_eq_some directory
          · rcases List.exists_cons_of_ne_nil top with ⟨last, above, rfl⟩
            rw [List.reverse_cons] at directory
            have isAbove := contentAt?_of_above directory (List.prefix_append _ [last]) (by simp)
            exact Option.isSome_of_eq_some isAbove
        · cases further.2
          rw [List.reverse_cons]
          exact further.1
      · split at further
        · exact (induction further last).2
        · exact (induction further.2 last).2

/-- Where the last name leads nowhere, nothing of this name is there. -/
theorem contentAt?_of_follow_notFound
    (directory : root.contentAt? reached.reverse = some .directory)
    (failed : follow root reached [name] = .error .notFound) :
    root.contentAt? (reached.reverse ++ [name]) = none ∧ name ≠ ".." ∧
      name.utf8ByteSize ≤ longestName := by
  rcases contentAt?_eq_directory_iff.mp directory with ⟨entries, here⟩
  have child := isSome_find?_iff here name
  rw [follow, here] at failed
  simp only at failed
  split at failed
  · cases failed
  · rename_i short
    split at failed
    · cases failed
    · rename_i down
      split at failed
      · cases failed
      · rename_i missing
        rw [child] at missing
        exact ⟨Option.not_isSome_iff_eq_none.mp missing, by simpa using down, Nat.not_lt.mp short⟩

theorem follow_ne_nullCharacter : follow root reached names ≠ .error .nullCharacter := by
  induction names generalizing reached with
  | nil => exact nofun
  | cons name names induction =>
      rw [follow]
      split
      · exact nofun
      · exact nofun
      · split
        · exact nofun
        · split
          · exact induction
          · split
            · exact induction
            · exact nofun

end Follow

/-! ## Places of paths -/

section Places

variable {tree : FileTree} {path : Path} {place : List String}

/-- The place where a path begins, with the last name first. -/
def startOf (tree : FileTree) (path : Path) : List String :=
  if path.isAbsolute then [] else tree.working.reverse

theorem locate_eq_iff (result : Except FileFault (List String))
    (noNull : result ≠ .error .nullCharacter) (short : result ≠ .error .nameTooLong) :
    tree.locate path = result ↔
      path.hasNull = false ∧ path.toString.utf8ByteSize ≤ longestPath ∧
        (follow tree.root (startOf tree path) path.names).map List.reverse = result := by
  rw [locate, startOf]
  cases path.hasNull with
  | true => simp [noNull.symm]
  | false =>
      by_cases long : longestPath < path.toString.utf8ByteSize
      · simp [long, Nat.not_le.mpr long, short.symm]
      · simp [long, Nat.not_lt.mp long]

theorem locate_eq_ok_iff : tree.locate path = .ok place ↔
    path.hasNull = false ∧ path.toString.utf8ByteSize ≤ longestPath ∧
      follow tree.root (startOf tree path) path.names = .ok place.reverse := by
  rw [locate_eq_iff (.ok place) nofun nofun]
  cases follow tree.root (startOf tree path) path.names <;> simp [Except.map, List.reverse_eq_iff]

theorem locate_eq_notFound_iff : tree.locate path = .error .notFound ↔
    path.hasNull = false ∧ path.toString.utf8ByteSize ≤ longestPath ∧
      follow tree.root (startOf tree path) path.names = .error .notFound := by
  rw [locate_eq_iff (.error .notFound) nofun nofun]
  cases follow tree.root (startOf tree path) path.names <;> simp [Except.map]

theorem find_eq_ok_iff {entry : Entry} : tree.find path = .ok entry ↔
    ∃ place, tree.locate path = .ok place ∧ tree.root.descend? place = some entry := by
  rw [find]
  cases tree.locate path with
  | error fault => simp
  | ok place => cases found : tree.root.descend? place <;> simp [found]

theorem isDirectory_iff : tree.isDirectory path = true ↔
    ∃ place, tree.locate path = .ok place ∧ tree.root.contentAt? place = some .directory := by
  have found : tree.isDirectory path = true ↔
      ∃ entries, tree.find path = .ok (.directory entries) := by
    rw [isDirectory]
    split
    · rename_i entries found
      simp [found]
    · rename_i other
      simp only [Bool.false_eq_true, false_iff]
      rintro ⟨entries, found⟩
      exact other entries found
  rw [found]
  simp only [find_eq_ok_iff, contentAt?_eq_directory_iff]
  rw [exists_comm]
  simp only [exists_and_left]

/-- A later state of the files, in which all directories are still there. -/
structure KeepsDirectories (before after : FileTree) : Prop where
  working : after.working = before.working
  kept : ∀ place, before.root.contentAt? place = some .directory →
    after.root.contentAt? place = some .directory

namespace KeepsDirectories

variable {before middle after : FileTree}

theorem refl (tree : FileTree) : KeepsDirectories tree tree := ⟨rfl, fun _ => id⟩

theorem trans (first : KeepsDirectories before middle) (second : KeepsDirectories middle after) :
    KeepsDirectories before after :=
  ⟨second.working.trans first.working, fun place directory =>
    second.kept place (first.kept place directory)⟩

/-- A path still leads to its place if something stands there. -/
theorem locate (keeps : KeepsDirectories before after) (located : before.locate path = .ok place)
    (present : (after.root.contentAt? place).isSome = true) : after.locate path = .ok place := by
  rcases locate_eq_ok_iff.mp located with ⟨noNull, short, followed⟩
  have start : startOf after path = startOf before path := by
    rw [startOf, startOf, keeps.working]
  refine locate_eq_ok_iff.mpr ⟨noNull, short, ?_⟩
  rw [start]
  apply follow_of_directories keeps.kept _ followed
  rwa [List.reverse_reverse]

theorem isDirectory (keeps : KeepsDirectories before after)
    (directory : before.isDirectory path = true) : after.isDirectory path = true := by
  rcases isDirectory_iff.mp directory with ⟨place, located, standing⟩
  have still := keeps.kept place standing
  exact isDirectory_iff.mpr ⟨place, keeps.locate located (Option.isSome_of_eq_some still), still⟩

end KeepsDirectories

/-- A new place stands in a directory that is there, and the path leads to it once something does
too. -/
structure IsPlaceFor (tree : FileTree) (path : Path) (place : List String) : Prop where
  directory : tree.root.contentAt? place.dropLast = some .directory
  vacant : tree.root.contentAt? place = none ∨
    ∃ bytes, tree.find path = .ok (.file bytes) ∧ tree.root.contentAt? place = some (.file bytes)
  leads : ∀ after, KeepsDirectories tree after → (after.root.contentAt? place).isSome = true →
    after.locate path = .ok place

theorem dropLast_append_name (nonempty : path.names ≠ []) :
    path.names = path.parent.names ++ [path.name] := by
  rw [Path.parent, Path.name, List.getLast?_eq_some_getLast nonempty, Option.getD_some,
    List.dropLast_append_getLast]

/-- A path to a file is that of a place, for the file may be written anew. -/
theorem isPlaceFor_of_locate (located : tree.locate path = .ok place)
    (noDirectory : ∀ entries, tree.find path ≠ .ok (.directory entries))
    (nonempty : path.names ≠ []) : IsPlaceFor tree path place := by
  rcases isSome_of_follow (locate_eq_ok_iff.mp located).2.2 nonempty with ⟨top, present⟩
  rw [List.reverse_reverse] at present
  rcases Option.isSome_iff_exists.mp present with ⟨content, isContent⟩
  cases content with
  | directory =>
      rcases contentAt?_eq_directory_iff.mp isContent with ⟨entries, isDirectory⟩
      exact absurd (find_eq_ok_iff.mpr ⟨place, located, isDirectory⟩) (noDirectory entries)
  | file bytes =>
      have below : place ≠ [] := by
        rintro rfl
        rw [top] at isContent
        cases isContent
      have isFile := find_eq_ok_iff.mpr ⟨place, located, contentAt?_eq_file_iff.mp isContent⟩
      refine ⟨?_, .inr ⟨bytes, isFile, isContent⟩, ?_⟩
      · exact contentAt?_of_above isContent (List.dropLast_prefix place) (ne_dropLast below)
      · exact fun after keeps => keeps.locate located

/-- A path that leads nowhere, from a directory that is there, is that of a place. -/
theorem isPlaceFor_of_missing {above : List String} (missing : tree.locate path = .error .notFound)
    (parentLocated : tree.locate path.parent = .ok above)
    (standing : tree.root.contentAt? above = some .directory) (nonempty : path.names ≠ []) :
    IsPlaceFor tree path (above ++ [path.name]) := by
  rcases locate_eq_notFound_iff.mp missing with ⟨noNull, short, failed⟩
  rcases locate_eq_ok_iff.mp parentLocated with ⟨_, _, followed⟩
  have start : startOf tree path.parent = startOf tree path := rfl
  rw [start] at followed
  rw [dropLast_append_name nonempty, follow_append, followed] at failed
  have standingReversed : tree.root.contentAt? above.reverse.reverse = some .directory := by
    rw [List.reverse_reverse]
    exact standing
  rcases contentAt?_of_follow_notFound standingReversed failed with ⟨absent, down, fits⟩
  rw [List.reverse_reverse] at absent
  refine ⟨?_, .inl absent, ?_⟩
  · rw [List.dropLast_concat]
    exact standing
  · intro after keeps present
    refine locate_eq_ok_iff.mpr ⟨noNull, short, ?_⟩
    have still := keeps.kept above standing
    have locatedAfter := keeps.locate parentLocated (Option.isSome_of_eq_some still)
    have startAfter : startOf after path.parent = startOf after path := rfl
    have followedAfter := (locate_eq_ok_iff.mp locatedAfter).2.2
    rw [startAfter] at followedAfter
    rw [dropLast_append_name nonempty, follow_append, followedAfter]
    refine follow_cons_eq_ok_iff.mpr ⟨?_, fits, ?_⟩
    · rw [List.reverse_reverse]
      exact still
    · rw [if_neg down, List.reverse_reverse]
      refine ⟨present, ?_⟩
      rw [follow, List.reverse_append]
      rfl

theorem isPlaceFor_of_locateNew (located : tree.locateNew path = .ok place)
    (noDirectory : ∀ entries, tree.find path ≠ .ok (.directory entries))
    (nonempty : path.names ≠ []) : IsPlaceFor tree path place := by
  rw [locateNew] at located
  split at located
  · rename_i found there
    cases located
    exact isPlaceFor_of_locate there noDirectory nonempty
  · rename_i missing
    split at located
    · cases located
    · cases located
    · rename_i entries parentFound
      rcases find_eq_ok_iff.mp parentFound with ⟨above, parentLocated, isDirectory⟩
      rw [parentLocated] at located
      cases located
      exact isPlaceFor_of_missing missing parentLocated
        (contentAt?_eq_directory_iff.mpr ⟨entries, isDirectory⟩) nonempty
  · cases located

/-- The root is no new place. -/
theorem IsPlaceFor.ne_nil (isPlace : IsPlaceFor tree path place) : place ≠ [] := by
  rintro rfl
  have top := isPlace.directory
  rw [List.dropLast_nil] at top
  rcases isPlace.vacant with missing | ⟨bytes, _, isFile⟩
  · rw [missing] at top
    cases top
  · rw [isFile] at top
    cases top

end Places

/-! ## Operations that succeed -/

section Operations

variable {tree after : FileTree} {path : Path} {place : List String}

theorem AddsDirectories.keepsDirectories {root : Entry} (adds : AddsDirectories tree.root root) :
    KeepsDirectories tree { tree with root } :=
  ⟨rfl, fun _ directory => adds.keeps directory⟩

/-- Nothing stands below a new place. -/
theorem IsPlaceFor.contentAt?_of_below {other : List String} (isPlace : IsPlaceFor tree path place)
    (below : place <+: other) (different : other ≠ place) : tree.root.contentAt? other = none := by
  rcases isPlace.vacant with missing | ⟨bytes, _, isFile⟩
  · exact contentAt?_of_none missing below
  · exact contentAt?_of_file isFile below different

/-- A file where nothing or a file was. -/
theorem keepsDirectories_setAt (isPlace : IsPlaceFor tree path place) (bytes : Utf8.Bytes) :
    KeepsDirectories tree { tree with root := setAt tree.root place (.file bytes) } := by
  refine ⟨rfl, fun other directory => ?_⟩
  have apart : ¬ place <+: other := by
    intro below
    by_cases same : other = place
    · rw [same] at directory
      rcases isPlace.vacant with missing | ⟨old, _, isFile⟩
      · rw [missing] at directory
        cases directory
      · rw [isFile] at directory
        cases directory
    · rw [isPlace.contentAt?_of_below below same] at directory
      cases directory
  rw [contentAt?_setAt isPlace.directory apart, directory]

/-- What is written stands where the path then leads. -/
theorem writeBytes_eq_ok {bytes : Utf8.Bytes} (written : tree.writeBytes path bytes = .ok after)
    (directory : path.names = [] → tree.isDirectory path = true) :
    ∃ place, IsPlaceFor tree path place ∧ after.locate path = .ok place ∧
      after = { tree with root := setAt tree.root place (.file bytes) } := by
  rw [writeBytes] at written
  split at written
  · cases written
  · rename_i noDirectory
    split at written
    · cases written
    · rename_i place located
      cases written
      have nonempty : path.names ≠ [] := by
        intro empty
        rcases isDirectory_iff.mp (directory empty) with ⟨here, found, isDirectory⟩
        rcases contentAt?_eq_directory_iff.mp isDirectory with ⟨entries, reached⟩
        exact noDirectory entries (find_eq_ok_iff.mpr ⟨here, found, reached⟩)
      have isPlace := isPlaceFor_of_locateNew located noDirectory nonempty
      refine ⟨place, isPlace, ?_, rfl⟩
      apply isPlace.leads _ (keepsDirectories_setAt isPlace bytes)
      rw [contentAt?_setAt_self]
      rfl

/-- A file that is written leaves all else as it is. -/
theorem contentAt?_setAt_place {other : List String} (isPlace : IsPlaceFor tree path place)
    (bytes : Utf8.Bytes) (different : other ≠ place) :
    (setAt tree.root place (.file bytes)).contentAt? other = tree.root.contentAt? other := by
  by_cases below : place <+: other
  · have isFile := contentAt?_setAt_self tree.root (.file bytes) place
    rw [isPlace.contentAt?_of_below below different, contentAt?_of_file isFile below different]
  · exact contentAt?_setAt isPlace.directory below

theorem fileAt?_setAt {other : List String} (isPlace : IsPlaceFor tree path place)
    (bytes : Utf8.Bytes) (different : other ≠ place) :
    (setAt tree.root place (.file bytes)).fileAt? other = tree.root.fileAt? other :=
  fileAt?_eq_of_contentAt? (contentAt?_setAt_place isPlace bytes different)

/-- Directories are added, of which the path is one. -/
structure MakesDirectory (before after : FileTree) (path : Path) : Prop where
  working : after.working = before.working
  adds : AddsDirectories before.root after.root
  made : after.isDirectory path = true

theorem MakesDirectory.keepsDirectories (makes : MakesDirectory tree after path) :
    KeepsDirectories tree after :=
  ⟨makes.working, fun _ directory => makes.adds.keeps directory⟩

theorem makesDirectory_of_makeDirectory (made : tree.makeDirectory path = .ok after)
    (nonempty : path.names ≠ []) : MakesDirectory tree after path := by
  rw [makeDirectory] at made
  split at made
  · cases made
  · rename_i missing
    split at made
    · cases made
    · rename_i place located
      cases made
      have isPlace := isPlaceFor_of_locateNew located (by simp [missing]) nonempty
      have absent : tree.root.contentAt? place = none := by
        rcases isPlace.vacant with absent | ⟨bytes, found, _⟩
        · exact absent
        · rw [missing] at found
          cases found
      have adds := AddsDirectories.setAt absent isPlace.directory
      have made := contentAt?_setAt_self tree.root (.directory []) place
      refine ⟨rfl, adds, isDirectory_iff.mpr ⟨place, ?_, made⟩⟩
      apply isPlace.leads _ adds.keepsDirectories
      rw [made]
      rfl
  · cases made

theorem makesDirectory_of_makeDirectoriesUpTo {names : Nat} (counted : path.names.length = names)
    (made : tree.makeDirectoriesUpTo path names = .ok after) : MakesDirectory tree after path := by
  induction names generalizing tree path after with
  | zero =>
      rw [makeDirectoriesUpTo] at made
      split at made
      · rename_i there
        cases made
        exact ⟨rfl, .refl _, there⟩
      · cases made
  | succ names induction =>
      have nonempty : path.names ≠ [] := List.ne_nil_of_length_eq_add_one counted
      rw [makeDirectoriesUpTo] at made
      split at made
      · rename_i same
        cases made
        exact makesDirectory_of_makeDirectory same nonempty
      · split at made
        · cases made
        · rename_i above parentMade
          have parentCounted : path.parent.names.length = names := by
            rw [Path.parent, List.length_dropLast, counted]
            rfl
          have below := induction parentCounted parentMade
          split at made
          · rename_i same
            cases made
            have here := makesDirectory_of_makeDirectory same nonempty
            exact ⟨here.working.trans below.working, below.adds.trans here.adds, here.made⟩
          · split at made
            · rename_i there
              cases made
              exact ⟨below.working, below.adds, there⟩
            · cases made
      · split at made
        · rename_i there
          cases made
          exact ⟨rfl, .refl _, there⟩
        · cases made

theorem makesDirectory_of_makeDirectories (made : tree.makeDirectories path = .ok after) :
    MakesDirectory tree after path :=
  makesDirectory_of_makeDirectoriesUpTo rfl made

/-- A path without names is its own parent. -/
theorem MakesDirectory.isDirectory_of_empty (makes : MakesDirectory tree after path.parent)
    (empty : path.names = []) : after.isDirectory path = true := by
  have same : path.parent = path := by
    rcases path with ⟨root, names⟩
    cases empty
    rfl
  exact same ▸ makes.made

end Operations

/-! ## Null characters -/

section NullCharacter

variable {tree : FileTree} {path : Path}

theorem locate_ne_nullCharacter (noNull : path.hasNull = false) :
    tree.locate path ≠ .error .nullCharacter := by
  rw [locate, noNull, if_neg Bool.false_ne_true]
  split
  · exact nofun
  · cases followed : follow tree.root _ path.names with
    | ok found => exact nofun
    | error fault =>
        intro same
        cases same
        exact follow_ne_nullCharacter followed

theorem find_ne_nullCharacter (noNull : path.hasNull = false) :
    tree.find path ≠ .error .nullCharacter := by
  rw [find]
  split
  · rename_i fault located
    intro same
    cases same
    exact locate_ne_nullCharacter noNull located
  · split <;> exact nofun

theorem hasNull_parent (noNull : path.hasNull = false) : path.parent.hasNull = false := by
  rw [Path.hasNull, List.any_eq_false] at noNull ⊢
  exact fun name member => noNull name (List.dropLast_subset _ member)

theorem locateNew_ne_nullCharacter (noNull : path.hasNull = false) :
    tree.locateNew path ≠ .error .nullCharacter := by
  have parentNoNull := hasNull_parent noNull
  rw [locateNew]
  split
  · exact nofun
  · split
    · rename_i fault found
      intro same
      cases same
      exact find_ne_nullCharacter parentNoNull found
    · exact nofun
    · cases located : tree.locate path.parent with
      | ok place => exact nofun
      | error fault =>
          intro same
          cases same
          exact locate_ne_nullCharacter parentNoNull located
  · rename_i fault _ located
    intro same
    cases same
    exact locate_ne_nullCharacter noNull located

variable {error : FileError}

theorem readBytes_fault (noNull : path.hasNull = false)
    (failed : tree.readBytes path = .error error) : error.fault ≠ .nullCharacter := by
  rw [readBytes] at failed
  split at failed
  · rename_i fault found
    cases failed
    rintro rfl
    exact find_ne_nullCharacter noNull found
  · cases failed
    exact nofun
  · cases failed

theorem readText_fault (noNull : path.hasNull = false)
    (failed : tree.readText path = .error (.file error)) : error.fault ≠ .nullCharacter := by
  rw [readText] at failed
  split at failed
  · rename_i other read
    cases failed
    exact readBytes_fault noNull read
  · rw [decodeText] at failed
    split at failed <;> cases failed

theorem writeBytes_fault {bytes : Utf8.Bytes} (noNull : path.hasNull = false)
    (failed : tree.writeBytes path bytes = .error error) : error.fault ≠ .nullCharacter := by
  rw [writeBytes] at failed
  split at failed
  · cases failed
    exact nofun
  · split at failed
    · rename_i fault located
      cases failed
      rintro rfl
      exact locateNew_ne_nullCharacter noNull located
    · cases failed

theorem makeDirectory_ne_nullCharacter (noNull : path.hasNull = false) :
    tree.makeDirectory path ≠ .error .nullCharacter := by
  rw [makeDirectory]
  split
  · exact nofun
  · split
    · rename_i fault located
      intro same
      cases same
      exact locateNew_ne_nullCharacter noNull located
    · exact nofun
  · rename_i fault _ found
    intro same
    cases same
    exact find_ne_nullCharacter noNull found

theorem makeDirectoriesUpTo_fault {names : Nat} (noNull : path.hasNull = false)
    (failed : tree.makeDirectoriesUpTo path names = .error error) :
    error.fault ≠ .nullCharacter := by
  induction names generalizing path error with
  | zero =>
      rw [makeDirectoriesUpTo] at failed
      split at failed
      · cases failed
      · cases failed
        exact nofun
  | succ names induction =>
      rw [makeDirectoriesUpTo] at failed
      split at failed
      · cases failed
      · split at failed
        · rename_i other parentFailed
          cases failed
          exact induction (hasNull_parent noNull) parentFailed
        · split at failed
          · cases failed
          · rename_i fault made
            split at failed
            · cases failed
            · cases failed
              rintro rfl
              exact makeDirectory_ne_nullCharacter noNull made
      · rename_i fault _ made
        split at failed
        · cases failed
        · cases failed
          rintro rfl
          exact makeDirectory_ne_nullCharacter noNull made

theorem makeDirectories_fault (noNull : path.hasNull = false)
    (failed : tree.makeDirectories path = .error error) : error.fault ≠ .nullCharacter :=
  makeDirectoriesUpTo_fault noNull failed

end NullCharacter

end Stencil.FileTree
