import Stencil.Proofs.Files.Following

/-!
File trees that look alike. What an operation reads it reads off the contents of places, so it reads
the same in two trees as far as these have the same contents. In what order the entries of a
directory are kept cannot be seen.
-/

namespace Stencil.FileTree

open Entry

/-- What stands where a path leads. -/
def contentOf (tree : FileTree) (path : Path) : Except FileFault Content :=
  (tree.find path).map Entry.content

theorem contentOf_eq (tree : FileTree) (path : Path) :
    tree.contentOf path = (tree.locate path).bind fun place =>
      (tree.root.contentAt? place).elim (.error .notFound) .ok := by
  rw [contentOf, find]
  cases tree.locate path with
  | error fault => rfl
  | ok place =>
      simp only [Except.bind, contentAt?]
      cases tree.root.descend? place <;> rfl

/-- Whether something stands at a place, and whether it is a directory. -/
def kindAt? (root : Entry) (place : List String) : Option Bool :=
  (root.contentAt? place).map Content.isDirectory

theorem kindAt?_eq (root : Entry) (place : List String) :
    kindAt? root place = (root.descend? place).map Entry.isDirectory := by
  rw [kindAt?, contentAt?, Option.map_map]
  congr 1
  funext entry
  exact isDirectory_content entry

/-- The same stands at every place, but at those that are changed only files do in both. -/
structure IsAlikeBut (changed : List String → Prop) (left right : FileTree) : Prop where
  working : right.working = left.working
  kinds : ∀ place, kindAt? right.root place = kindAt? left.root place
  contents : ∀ place, ¬ changed place → right.root.contentAt? place = left.root.contentAt? place

/-- The same stands at every place. -/
structure IsAlike (left right : FileTree) : Prop where
  working : right.working = left.working
  contents : ∀ place, right.root.contentAt? place = left.root.contentAt? place

/-- Names lead through directories, whatever is in the files. -/
theorem follow_of_kinds {left right : Entry} (same : ∀ place, kindAt? right place = kindAt? left place)
    (reached names : List String) : follow right reached names = follow left reached names := by
  induction names generalizing reached with
  | nil => rfl
  | cons name names induction =>
      have here := same reached.reverse
      rw [kindAt?_eq, kindAt?_eq] at here
      rw [follow, follow]
      cases found : left.descend? reached.reverse with
      | none =>
          rw [found, Option.map_none, Option.map_eq_none_iff] at here
          rw [here]
      | some entry =>
          rw [found, Option.map_some, Option.map_eq_some_iff] at here
          rcases here with ⟨other, foundOther, kind⟩
          rw [foundOther]
          cases entry with
          | file bytes =>
              cases other with
              | file others => rfl
              | directory others => cases kind
          | directory entries =>
              cases other with
              | file others => cases kind
              | directory others =>
                  have child : (others.find? (·.1 == name)).isSome =
                      (entries.find? (·.1 == name)).isSome := by
                    have below := congrArg Option.isSome (same (reached.reverse ++ [name]))
                    rw [kindAt?, kindAt?, Option.isSome_map, Option.isSome_map] at below
                    rw [Bool.eq_iff_iff, isSome_find?_iff foundOther, isSome_find?_iff found, below]
                  simp only [child, induction]

theorem IsAlikeBut.keepsDirectories {changed : List String → Prop} {left right : FileTree}
    (alike : IsAlikeBut changed left right) : KeepsDirectories left right := by
  refine ⟨alike.working, fun place directory => ?_⟩
  have kind := alike.kinds place
  rw [kindAt?, kindAt?, directory, Option.map_some, Option.map_eq_some_iff] at kind
  rcases kind with ⟨content, found, isDirectory⟩
  cases content with
  | file bytes => cases isDirectory
  | directory => exact found

theorem IsAlikeBut.symm {changed : List String → Prop} {left right : FileTree}
    (alike : IsAlikeBut changed left right) : IsAlikeBut changed right left :=
  ⟨alike.working.symm, fun place => (alike.kinds place).symm, fun place unchanged =>
    (alike.contents place unchanged).symm⟩

theorem IsAlikeBut.locate {changed : List String → Prop} {left right : FileTree}
    (alike : IsAlikeBut changed left right) (path : Path) :
    right.locate path = left.locate path := by
  rw [FileTree.locate, FileTree.locate, alike.working, follow_of_kinds alike.kinds]

namespace IsAlike

variable {left middle right : FileTree}

theorem refl (tree : FileTree) : IsAlike tree tree := ⟨rfl, fun _ => rfl⟩

theorem isAlikeBut (alike : IsAlike left right) (changed : List String → Prop) :
    IsAlikeBut changed left right :=
  ⟨alike.working, fun place => congrArg _ (alike.contents place), fun place _ =>
    alike.contents place⟩

theorem keepsDirectories (alike : IsAlike left right) : KeepsDirectories left right :=
  (alike.isAlikeBut fun _ => False).keepsDirectories

theorem locate (alike : IsAlike left right) (path : Path) :
    right.locate path = left.locate path :=
  (alike.isAlikeBut fun _ => False).locate path

theorem contentOf (alike : IsAlike left right) (path : Path) :
    right.contentOf path = left.contentOf path := by
  simp only [contentOf_eq, alike.locate, alike.contents]

end IsAlike

/-! ## Operations that read -/

section Reading

variable {left right : FileTree} {path : Path}

variable (same : right.contentOf path = left.contentOf path)

include same

/-- Either the same fault is on the way in both trees, or the path leads to the same content. -/
theorem find_of_contentOf :
    (∃ fault, left.find path = .error fault ∧ right.find path = .error fault) ∨
      ∃ entry other, left.find path = .ok entry ∧ right.find path = .ok other ∧
        other.content = entry.content := by
  rw [contentOf, contentOf] at same
  cases found : left.find path with
  | error fault =>
      cases foundOther : right.find path with
      | error other =>
          rw [found, foundOther] at same
          cases same
          exact .inl ⟨fault, rfl, rfl⟩
      | ok other =>
          rw [found, foundOther] at same
          cases same
  | ok entry =>
      cases foundOther : right.find path with
      | error other =>
          rw [found, foundOther] at same
          cases same
      | ok other =>
          rw [found, foundOther] at same
          exact .inr ⟨entry, other, rfl, rfl, Except.ok.inj same⟩

theorem isFile_of_contentOf : right.isFile path = left.isFile path := by
  rw [isFile, isFile]
  rcases find_of_contentOf same with
    ⟨fault, found, foundOther⟩ | ⟨entry, other, found, foundOther, content⟩
  · rw [found, foundOther]
  · rw [found, foundOther]
    match entry, other, content with
    | .file _, .file _, _ => rfl
    | .directory _, .directory _, _ => rfl

theorem leadsTo_of_contentOf {accepts : Entry → Bool} (judge : Content → Bool)
    (judged : ∀ entry, accepts entry = judge entry.content) :
    right.leadsTo accepts path = left.leadsTo accepts path := by
  rw [leadsTo, leadsTo]
  rcases find_of_contentOf same with
    ⟨fault, found, foundOther⟩ | ⟨entry, other, found, foundOther, content⟩
  · rw [found, foundOther]
  · simp only [found, foundOther, judged, content]

theorem leadsToFile_of_contentOf :
    right.leadsTo (!·.isDirectory) path = left.leadsTo (!·.isDirectory) path := by
  apply leadsTo_of_contentOf same (· != .directory)
  intro entry
  cases entry <;> rfl

theorem readBytes_of_contentOf : right.readBytes path = left.readBytes path := by
  rw [readBytes, readBytes]
  rcases find_of_contentOf same with
    ⟨fault, found, foundOther⟩ | ⟨entry, other, found, foundOther, content⟩
  · rw [found, foundOther]
  · rw [found, foundOther]
    cases entry with
    | file bytes =>
        cases other with
        | file others =>
            cases content
            rfl
        | directory others => cases content
    | directory entries =>
        cases other with
        | file others => cases content
        | directory others => rfl

theorem readText_of_contentOf : right.readText path = left.readText path := by
  rw [readText, readText, readBytes_of_contentOf same]

end Reading

/-! ## Entries of a directory -/

section Children

variable {name : String}

/-- The step to an entry of a directory depends on whether the entry is there. -/
theorem follow_singleton_congr {left right : Entry} {reached : List String}
    (directoryLeft : left.contentAt? reached.reverse = some .directory)
    (directoryRight : right.contentAt? reached.reverse = some .directory)
    (same : right.contentAt? (reached.reverse ++ [name]) =
      left.contentAt? (reached.reverse ++ [name])) :
    follow right reached [name] = follow left reached [name] := by
  rcases contentAt?_eq_directory_iff.mp directoryLeft with ⟨entries, foundLeft⟩
  rcases contentAt?_eq_directory_iff.mp directoryRight with ⟨others, foundRight⟩
  have child : (others.find? (·.1 == name)).isSome = (entries.find? (·.1 == name)).isSome := by
    rw [Bool.eq_iff_iff, isSome_find?_iff foundRight, isSome_find?_iff foundLeft, same]
  simp only [follow, foundLeft, foundRight, child]

variable {left right : FileTree} {path child : Path} {base : List String}
  (names : child.names = path.names ++ [name]) (absolute : child.isAbsolute = path.isAbsolute)

include names absolute

theorem follow_child {tree : FileTree} (located : tree.locate path = .ok base) :
    follow tree.root (startOf tree child) child.names =
      follow tree.root base.reverse [name] := by
  have start : startOf tree child = startOf tree path := by
    rw [startOf, startOf, absolute]
  rw [start, names, follow_append, (locate_eq_ok_iff.mp located).2.2]
  rfl

/-- What a path to an entry of a directory leads to depends only on what this entry is, if the
directory has the same place. -/
theorem contentOf_child (locatedLeft : left.locate path = .ok base)
    (locatedRight : right.locate path = .ok base)
    (directoryLeft : left.root.contentAt? base = some .directory)
    (directoryRight : right.root.contentAt? base = some .directory) (down : name ≠ "..")
    (same : right.root.contentAt? (base ++ [name]) = left.root.contentAt? (base ++ [name])) :
    right.contentOf child = left.contentOf child := by
  have reversed : base.reverse.reverse = base := List.reverse_reverse base
  have step : follow right.root base.reverse [name] = follow left.root base.reverse [name] := by
    apply follow_singleton_congr <;> rwa [reversed]
  have followed : follow right.root (startOf right child) child.names =
      follow left.root (startOf left child) child.names := by
    rw [follow_child names absolute locatedLeft, follow_child names absolute locatedRight, step]
  have located : right.locate child = left.locate child := by
    simp only [startOf] at followed
    rw [locate, locate, followed]
  rw [contentOf_eq, contentOf_eq, located]
  cases led : left.locate child with
  | error fault => rfl
  | ok place =>
      -- The path leads to the entry and nowhere else.
      have there := (locate_eq_ok_iff.mp led).2.2
      rw [follow_child names absolute locatedLeft, follow_cons_eq_ok_iff, if_neg down] at there
      have place_eq : place = base ++ [name] := by
        rw [← List.reverse_inj, ← Except.ok.inj there.2.2.2]
        simp
      rw [place_eq]
      show Option.elim _ _ _ = Option.elim _ _ _
      rw [same]

end Children

/-! ## Operations that change nothing -/

section Unchanged

variable {tree : FileTree} {path : Path} {place : List String} {bytes : Utf8.Bytes}

/-- A directory that is there is not made again. -/
theorem makeDirectories_of_isDirectory (there : tree.isDirectory path = true) :
    tree.makeDirectories path = .ok tree := by
  rw [makeDirectories]
  cases path.names.length with
  | zero => rw [makeDirectoriesUpTo, if_pos there]
  | succ names =>
      rcases isDirectory_iff.mp there with ⟨place, located, standing⟩
      rcases contentAt?_eq_directory_iff.mp standing with ⟨entries, reached⟩
      have found := find_eq_ok_iff.mpr ⟨place, located, reached⟩
      rw [makeDirectoriesUpTo, makeDirectory, found]
      exact if_pos there

/-- A file that is written over stays at its place. -/
theorem writeBytes_of_file {old : Utf8.Bytes} (located : tree.locate path = .ok place)
    (standing : tree.root.contentAt? place = some (.file old)) :
    tree.writeBytes path bytes = .ok { tree with root := setAt tree.root place (.file bytes) } := by
  have found := find_eq_ok_iff.mpr ⟨place, located, contentAt?_eq_file_iff.mp standing⟩
  rw [writeBytes, found]
  simp only [locateNew, located]

theorem readBytes_of_file (located : tree.locate path = .ok place)
    (standing : tree.root.contentAt? place = some (.file bytes)) :
    tree.readBytes path = .ok bytes := by
  have found := find_eq_ok_iff.mpr ⟨place, located, contentAt?_eq_file_iff.mp standing⟩
  rw [readBytes, found]

/-- A file that is written over changes at its own place. -/
theorem isAlikeBut_setAt {old : Utf8.Bytes}
    (standing : tree.root.contentAt? place = some (.file old))
    (top : tree.root.contentAt? [] = some .directory) :
    IsAlikeBut (· = place) tree { tree with root := setAt tree.root place (.file bytes) } := by
  have nonempty : place ≠ [] := by
    rintro rfl
    rw [standing] at top
    cases top
  have directory : tree.root.contentAt? place.dropLast = some .directory :=
    contentAt?_of_above standing (List.dropLast_prefix place) (ne_dropLast nonempty)
  have written := contentAt?_setAt_self tree.root (.file bytes) place
  have others (other : List String) (different : other ≠ place) :
      (setAt tree.root place (.file bytes)).contentAt? other = tree.root.contentAt? other := by
    by_cases below : place <+: other
    · rw [contentAt?_of_file standing below different, contentAt?_of_file written below different]
    · exact contentAt?_setAt directory below
  refine ⟨rfl, fun other => ?_, others⟩
  by_cases same : other = place
  · rw [kindAt?, kindAt?, same, written, standing]
    rfl
  · exact congrArg _ (others other same)

theorem isAlike_setAt (standing : tree.root.contentAt? place = some (.file bytes))
    (top : tree.root.contentAt? [] = some .directory) :
    IsAlike tree { tree with root := setAt tree.root place (.file bytes) } := by
  have alike := @isAlikeBut_setAt tree place bytes bytes standing top
  refine ⟨rfl, fun other => ?_⟩
  by_cases same : other = place
  · rw [same, contentAt?_setAt_self, standing]
    rfl
  · exact alike.contents other same

end Unchanged

/-! ## Files that are written again -/

section Again

variable {tree : FileTree} {path : Path} {place : List String} {bytes : Utf8.Bytes}

/-- A name that is not there leads nowhere. -/
theorem follow_singleton_missing {root : Entry} {reached : List String} {name : String}
    (directory : root.contentAt? reached.reverse = some .directory)
    (fits : name.utf8ByteSize ≤ longestName) (down : name ≠ "..")
    (missing : root.contentAt? (reached.reverse ++ [name]) = none) :
    follow root reached [name] = .error .notFound := by
  rcases contentAt?_eq_directory_iff.mp directory with ⟨entries, found⟩
  have absent : ¬ (entries.find? (·.1 == name)).isSome = true := by
    rw [isSome_find?_iff found, missing]
    exact Bool.false_ne_true
  rw [follow, found]
  simp only [if_neg (Nat.not_lt.mpr fits), beq_iff_eq, if_neg down, if_neg absent]

/-- The file of a path stands in the directory of the path, under the last of its names. -/
theorem place_of_file {above : List String} (located : tree.locate path = .ok place)
    (standing : tree.root.contentAt? place = some (.file bytes))
    (parentLocated : tree.locate path.parent = .ok above)
    (parentStanding : tree.root.contentAt? above = some .directory) :
    path.names ≠ [] ∧ path.name.utf8ByteSize ≤ longestName ∧ path.name ≠ ".." ∧
      place = above ++ [path.name] := by
  have nonempty : path.names ≠ [] := by
    intro empty
    have same : path.parent = path := by
      rcases path with ⟨root, names⟩
      cases empty
      rfl
    rw [same, located] at parentLocated
    cases parentLocated
    rw [standing] at parentStanding
    cases parentStanding
  have followed := (locate_eq_ok_iff.mp located).2.2
  rw [follow_child (dropLast_append_name nonempty) rfl parentLocated, follow_cons_eq_ok_iff]
    at followed
  rcases followed with ⟨_, fits, further⟩
  by_cases up : path.name = ".."
  · -- From a directory there is only a directory above.
    rw [if_pos up] at further
    have place_eq : place = above.dropLast := by
      rw [← List.reverse_inj, ← Except.ok.inj further, List.tail_reverse]
    have directory : tree.root.contentAt? place = some .directory := by
      rw [place_eq]
      by_cases top : above = []
      · rw [top] at parentStanding ⊢
        exact parentStanding
      · exact contentAt?_of_above parentStanding (List.dropLast_prefix above) (ne_dropLast top)
    rw [standing] at directory
    cases directory
  · rw [if_neg up] at further
    refine ⟨nonempty, fits, up, ?_⟩
    rw [← List.reverse_inj, ← Except.ok.inj further.2, List.reverse_concat]

/-- Where a path once led to a file, one can be written as long as its directory is there and no
directory has taken its place. -/
theorem exists_writeBytes {after : FileTree} {old : Utf8.Bytes}
    (located : tree.locate path = .ok place)
    (standing : tree.root.contentAt? place = some (.file old))
    (parent : tree.isDirectory path.parent = true) (keeps : KeepsDirectories tree after)
    (noDirectory : after.root.contentAt? place ≠ some .directory) :
    ∃ written, after.writeBytes path bytes = .ok written := by
  rcases isDirectory_iff.mp parent with ⟨above, parentLocated, parentStanding⟩
  rcases place_of_file located standing parentLocated parentStanding with
    ⟨nonempty, fits, down, rfl⟩
  have still := keeps.kept above parentStanding
  have parentLocatedAfter := keeps.locate parentLocated (Option.isSome_of_eq_some still)
  cases here : after.root.contentAt? (above ++ [path.name]) with
  | some content =>
      cases content with
      | directory => exact absurd here noDirectory
      | file bytes =>
          have same := keeps.locate located (Option.isSome_of_eq_some here)
          exact ⟨_, writeBytes_of_file same here⟩
  | none =>
      rcases locate_eq_ok_iff.mp located with ⟨noNull, short, _⟩
      have missing : after.locate path = .error .notFound := by
        refine locate_eq_notFound_iff.mpr ⟨noNull, short, ?_⟩
        rw [follow_child (dropLast_append_name nonempty) rfl parentLocatedAfter]
        apply follow_singleton_missing _ fits down
        · rwa [List.reverse_reverse]
        · rwa [List.reverse_reverse]
      rcases contentAt?_eq_directory_iff.mp still with ⟨entries, reached⟩
      have parentFound := find_eq_ok_iff.mpr ⟨above, parentLocatedAfter, reached⟩
      have notFound : after.find path = .error .notFound := by
        rw [find, missing]
      rw [writeBytes, notFound]
      simp only [locateNew, missing, parentFound, parentLocatedAfter]
      exact ⟨_, rfl⟩

end Again

end Stencil.FileTree
