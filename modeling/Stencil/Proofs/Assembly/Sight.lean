import Stencil.Proofs.Assembly.Outcome
import Stencil.Proofs.Files.Alike
import Stencil.Proofs.Files.Tree

/-!
What a traversal sees of a directory, and that it depends on nothing else. In what order a directory
holds its entries, and what is left out of it, do not matter.
-/

namespace Stencil.Assembly

/-- A traversal that has come to `root` at `start` comes to what stands at `place` below. -/
def Plan.Sees (plan : Plan) (start : List String) (root : Entry) (place : List String)
    (content : Content) : Prop :=
  place ≠ [] ∧ root.contentAt? place = some content ∧ plan.IsOpen start root place

/-- A traversal sees the same in both directories. -/
def Plan.SeesAlike (plan : Plan) (start : List String) (left right : Entry) : Prop :=
  ∀ place content, plan.Sees start left place content ↔ plan.Sees start right place content

section Sight

variable {plan : Plan} {start : List String} {left right : Entry}

theorem sees_singleton_iff {root : Entry} {name : String} {content : Content} :
    plan.Sees start root [name] content ↔
      ∃ child, root.child? name = some child ∧ plan.admits (start ++ [name]) child = true ∧
        child.content = content := by
  rw [Plan.Sees, Entry.contentAt?_cons]
  cases found : root.child? name with
  | none => simp
  | some child =>
      rw [Plan.isOpen_cons found, Option.bind_some, Entry.contentAt?_nil]
      simp [Plan.isOpen_nil, and_comm]

theorem sees_cons_iff {root child : Entry} {name : String} (found : root.child? name = some child)
    (admitted : plan.admits (start ++ [name]) child = true) {rest : List String}
    (nonempty : rest ≠ []) {content : Content} :
    plan.Sees start root (name :: rest) content ↔
      plan.Sees (start ++ [name]) child rest content := by
  rw [Plan.Sees, Plan.Sees, Entry.contentAt?_cons, found, Option.bind_some,
    Plan.isOpen_cons found]
  simp [admitted, nonempty]

theorem admits_of_kind {place : List String} {entry other : Entry}
    (kind : other.isDirectory = entry.isDirectory) :
    plan.admits place other = plan.admits place entry := by
  rw [Plan.admits, Plan.admits, Plan.excludes, Plan.excludes, kind]

/-- Whether a place is open to a traversal depends only on where there are directories. -/
theorem Plan.IsOpen.of_kinds {place : List String} (isOpen : plan.IsOpen start left place)
    (kinds : ∀ above, above ≠ [] → above <+: place →
      FileTree.kindAt? right above = FileTree.kindAt? left above) :
    plan.IsOpen start right place := by
  intro above other nonempty before reached
  have kind := kinds above nonempty before
  rw [FileTree.kindAt?_eq, FileTree.kindAt?_eq, reached, eq_comm, Option.map_some,
    Option.map_eq_some_iff] at kind
  rcases kind with ⟨entry, found, same⟩
  rw [admits_of_kind same.symm]
  exact isOpen above entry nonempty before found

/-- What is seen is also seen in a directory where all that is seen stands too. -/
theorem Plan.Sees.transfer {place : List String} {content : Content}
    (seen : plan.Sees start left place content)
    (stands : ∀ place content, plan.Sees start left place content →
      right.contentAt? place = some content) : plan.Sees start right place content := by
  have same := stands place content seen
  rcases seen with ⟨nonempty, reached, isOpen⟩
  refine ⟨nonempty, same, isOpen.of_kinds fun above notEmpty before => ?_⟩
  rw [FileTree.kindAt?, FileTree.kindAt?]
  by_cases last : above = place
  · rw [last, same, reached]
  · -- A directory on the way is seen itself.
    have directory := Entry.contentAt?_of_above reached before (Ne.symm last)
    rw [directory, stands above .directory ⟨notEmpty, directory, fun top entry some below =>
      isOpen top entry some (below.trans before)⟩]

theorem not_sees_nil {root : Entry} {content : Content} : ¬ plan.Sees start root [] content :=
  fun seen => seen.1 rfl

theorem Plan.SeesAlike.symm (alike : plan.SeesAlike start left right) :
    plan.SeesAlike start right left :=
  fun place content => (alike place content).symm

/-- What is seen of an entry of one directory is seen of the entry with its name in the other. -/
theorem Plan.SeesAlike.child (alike : plan.SeesAlike start left right) {name : String}
    {child : Entry} (found : left.child? name = some child)
    (admitted : plan.admits (start ++ [name]) child = true) :
    ∃ other, right.child? name = some other ∧ plan.admits (start ++ [name]) other = true ∧
      other.content = child.content ∧ plan.SeesAlike (start ++ [name]) child other := by
  have seen : plan.Sees start left [name] child.content :=
    sees_singleton_iff.mpr ⟨child, found, admitted, rfl⟩
  rcases sees_singleton_iff.mp ((alike _ _).mp seen) with ⟨other, foundOther, admittedOther, same⟩
  refine ⟨other, foundOther, admittedOther, same, fun place content => ?_⟩
  by_cases empty : place = []
  · rw [empty]
    exact iff_of_false not_sees_nil not_sees_nil
  · rw [← sees_cons_iff found admitted empty, ← sees_cons_iff foundOther admittedOther empty]
    exact alike _ _

end Sight

/-! ## Entries that are taken up -/

section Entries

variable {plan : Plan} {place : List String}

theorem addEntries_cons_admitted {name : String} {entry : Entry}
    (admitted : plan.admits (place ++ [name]) entry = true) (scope : Scope)
    (later : List (String × Entry)) :
    addEntries plan place scope ((name, entry) :: later) = (do
      addEntries plan place (← addEntry plan (place ++ [name]) scope entry) later) := by
  simp only [Plan.admits, Bool.and_eq_true, Bool.not_eq_true'] at admitted
  rw [addEntries]
  simp only [admitted.1, admitted.2, Bool.false_eq_true, if_false]

/-- Two entries under one name that are taken up and add the same to every scope. -/
structure AddsAlike (plan : Plan) (place : List String) (name : String) (entry other : Entry) :
    Prop where
  admitted : plan.admits (place ++ [name]) entry = true
  otherAdmitted : plan.admits (place ++ [name]) other = true
  same : ∀ scope, (addEntry plan (place ++ [name]) scope entry).result =
    (addEntry plan (place ++ [name]) scope other).result

theorem addEntries_of_forall₂ {entries others : List (String × Entry)}
    (related : List.Forall₂ (fun left right => left.1 = right.1 ∧
      AddsAlike plan place left.1 left.2 right.2) entries others) (scope : Scope) :
    (addEntries plan place scope entries).result = (addEntries plan place scope others).result := by
  induction related generalizing scope with
  | nil => rfl
  | @cons left right entries others first _ induction =>
      rcases left with ⟨name, entry⟩
      rcases right with ⟨otherName, other⟩
      rcases first with ⟨rfl, alike⟩
      rw [addEntries_cons_admitted alike.admitted, addEntries_cons_admitted alike.otherAdmitted]
      have added := alike.same scope
      cases ended : (addEntry plan (place ++ [name]) scope entry).result with
      | error error =>
          rw [ended] at added
          rw [Run.bind_of_error ended, Run.bind_of_error added.symm]
      | ok middle =>
          rw [ended] at added
          rw [Run.bind_result_of_ok ended, Run.bind_result_of_ok added.symm, induction]

theorem addEntries_filter (scope : Scope) (entries : List (String × Entry)) :
    (addEntries plan place scope entries).result =
      (addEntries plan place scope
        (entries.filter fun pair => plan.admits (place ++ [pair.1]) pair.2)).result := by
  induction entries generalizing scope with
  | nil => rfl
  | cons head later induction =>
      rcases head with ⟨name, entry⟩
      cases admitted : plan.admits (place ++ [name]) entry with
      | false =>
          have leftOut : ¬ plan.admits (place ++ [name]) entry := by simp [admitted]
          rw [addEntries_skipped leftOut, List.filter_cons_of_neg (by simpa using leftOut), induction]
      | true =>
          rw [List.filter_cons_of_pos (by simpa using admitted), addEntries_cons_admitted admitted,
            addEntries_cons_admitted admitted]
          cases ended : (addEntry plan (place ++ [name]) scope entry).result with
          | error error => rw [Run.bind_of_error ended, Run.bind_of_error ended]
          | ok middle =>
              rw [Run.bind_result_of_ok ended, Run.bind_result_of_ok ended, induction]

theorem addEntry_directory_result (scope : Scope) (entries : List (String × Entry)) :
    (addEntry plan place scope (.directory entries)).result =
      (addEntries plan place
        (((scope.withChild (plan.pathOf place).stem).child? (plan.pathOf place).stem).getD {})
        entries).result.map fun child =>
          (scope.withChild (plan.pathOf place).stem).setChild (plan.pathOf place).stem child := by
  rw [addEntry, Run.bind_result_of_ok rfl]
  cases ended : (addEntries plan place
    (((scope.withChild (plan.pathOf place).stem).child? (plan.pathOf place).stem).getD {})
    entries).result with
  | error error => rw [Run.bind_of_error ended]; rfl
  | ok child => rw [Run.bind_result_of_ok ended]; rfl

end Entries

/-! ## Lists in the order of names -/

/-- Two lists in the strict order of names that have the same names, with related entries. -/
theorem forall₂_of_increasing {related : String → Entry → Entry → Prop}
    {entries others : List (String × Entry)}
    (increasing : entries.Pairwise fun left right => left.1 < right.1)
    (othersIncreasing : others.Pairwise fun left right => left.1 < right.1)
    (forth : ∀ name entry, (name, entry) ∈ entries →
      ∃ other, (name, other) ∈ others ∧ related name entry other)
    (back : ∀ name other, (name, other) ∈ others → ∃ entry, (name, entry) ∈ entries) :
    List.Forall₂ (fun left right => left.1 = right.1 ∧ related left.1 left.2 right.2)
      entries others := by
  induction entries generalizing others with
  | nil =>
      cases others with
      | nil => exact .nil
      | cons other _ =>
          rcases back other.1 other.2 List.mem_cons_self with ⟨_, absurdity⟩
          cases absurdity
  | cons head tail induction =>
      rcases head with ⟨name, entry⟩
      rcases List.pairwise_cons.mp increasing with ⟨before, tailIncreasing⟩
      rcases forth name entry List.mem_cons_self with ⟨other, listed, isRelated⟩
      cases others with
      | nil => cases listed
      | cons first rest =>
          rcases first with ⟨firstName, firstOther⟩
          rcases List.pairwise_cons.mp othersIncreasing with ⟨firstBefore, restIncreasing⟩
          -- The least name of either list is in the other one too.
          have same : (name, other) = (firstName, firstOther) := by
            rcases List.mem_cons.mp listed with same | inRest
            · exact same
            · have smaller : firstName < name := firstBefore _ inRest
              rcases back firstName firstOther List.mem_cons_self with ⟨found, inEntries⟩
              rcases List.mem_cons.mp inEntries with equal | inTail
              · cases equal
                exact absurd smaller (lt_irrefl _)
              · exact absurd (smaller.trans (before _ inTail)) (lt_irrefl _)
          cases same
          refine .cons ⟨rfl, isRelated⟩ (induction tailIncreasing restIncreasing ?_ ?_)
          · intro later inner inTail
            rcases forth later inner (List.mem_cons_of_mem _ inTail) with ⟨found, member, holds⟩
            rcases List.mem_cons.mp member with equal | inRest
            · cases equal
              exact absurd (before _ inTail) (lt_irrefl _)
            · exact ⟨found, inRest, holds⟩
          · intro later inner inRest
            rcases back later inner (List.mem_cons_of_mem _ inRest) with ⟨found, member⟩
            rcases List.mem_cons.mp member with equal | inTail
            · cases equal
              exact absurd (firstBefore _ inRest) (lt_irrefl _)
            · exact ⟨found, inTail⟩

/-! ## Traversals -/

section Traversal

variable {plan : Plan} {start : List String} {left right : Entry}

/-- What two entries of the same kind add if what is below them adds the same. -/
theorem addEntry_of_below {child other : Entry} (same : other.content = child.content)
    (below : ∀ scope, (addEntries plan start scope child.sorted.entries).result =
      (addEntries plan start scope other.sorted.entries).result) (scope : Scope) :
    (addEntry plan start scope child.sorted).result =
      (addEntry plan start scope other.sorted).result := by
  match child, other, same with
  | .file _, .file _, rfl => rfl
  | .directory entries, .directory others, _ =>
      simp only [Entry.sorted, Entry.entries] at below ⊢
      rw [addEntry_directory_result, addEntry_directory_result, below]

theorem mem_admitted {root entry : Entry} (tree : root.IsTree) {name : String} :
    (name, entry) ∈ root.sorted.entries.filter
        (fun pair => plan.admits (start ++ [pair.1]) pair.2) ↔
      ∃ child, root.child? name = some child ∧ plan.admits (start ++ [name]) child = true ∧
        entry = child.sorted := by
  rw [List.mem_filter, Entry.mem_sorted]
  constructor
  · rintro ⟨⟨child, member, rfl⟩, admitted⟩
    exact ⟨child, (Entry.child?_eq_some_iff tree).mpr member,
      (Plan.admits_sorted _ _ _).symm.trans admitted, rfl⟩
  · rintro ⟨child, found, admitted, rfl⟩
    exact ⟨⟨child, (Entry.child?_eq_some_iff tree).mp found, rfl⟩,
      (Plan.admits_sorted _ _ _).trans admitted⟩

/-- Traversals of two directories that look alike come to the same scope, if those of what is below
the first do. -/
theorem addEntries_of_children (leftTree : left.IsTree) (rightTree : right.IsTree)
    (alike : plan.SeesAlike start left right)
    (below : ∀ name child, left.child? name = some child → ∀ other, other.IsTree →
      plan.SeesAlike (start ++ [name]) child other → ∀ scope,
        (addEntries plan (start ++ [name]) scope child.sorted.entries).result =
          (addEntries plan (start ++ [name]) scope other.sorted.entries).result)
    (scope : Scope) :
    (addEntries plan start scope left.sorted.entries).result =
      (addEntries plan start scope right.sorted.entries).result := by
  rw [addEntries_filter, addEntries_filter scope right.sorted.entries]
  apply addEntries_of_forall₂
  apply forall₂_of_increasing ((Entry.sorted_increasing leftTree).filter _)
    ((Entry.sorted_increasing rightTree).filter _)
  · intro name entry member
    rcases (mem_admitted leftTree).mp member with ⟨child, found, admitted, rfl⟩
    rcases alike.child found admitted with ⟨other, foundOther, admittedOther, same, alikeBelow⟩
    refine ⟨other.sorted, (mem_admitted rightTree).mpr ⟨other, foundOther, admittedOther, rfl⟩,
      ?_, ?_, ?_⟩
    · rwa [Plan.admits_sorted]
    · rwa [Plan.admits_sorted]
    · exact addEntry_of_below same (below name child found other (rightTree.child foundOther)
        alikeBelow)
  · intro name other member
    rcases (mem_admitted rightTree).mp member with ⟨child, found, admitted, rfl⟩
    rcases alike.symm.child found admitted with ⟨entry, foundEntry, admittedEntry, _⟩
    exact ⟨entry.sorted, (mem_admitted leftTree).mpr ⟨entry, foundEntry, admittedEntry, rfl⟩⟩

/-- A traversal depends on nothing but what it sees. -/
theorem addEntries_of_seesAlike (leftTree : left.IsTree) (rightTree : right.IsTree)
    (alike : plan.SeesAlike start left right) (scope : Scope) :
    (addEntries plan start scope left.sorted.entries).result =
      (addEntries plan start scope right.sorted.entries).result := by
  induction left using Entry.induction generalizing start right scope with
  | file bytes =>
      apply addEntries_of_children leftTree rightTree alike
      intro name child found
      cases found
  | directory entries induction =>
      apply addEntries_of_children leftTree rightTree alike
      intro name child found other otherTree alikeBelow scope
      exact induction name child ((Entry.child?_eq_some_iff leftTree).mp found)
        (leftTree.child found) otherTree alikeBelow scope

end Traversal

/-! ## Conversions -/

section Conversions

variable {path : Path} {exclude : List String} {left right : FileTree} {leftEntries rightEntries :
  List (String × Entry)} {minified : Bool}

/-- What a conversion of the directory at `path` reads is the same in both trees: the ignore file,
and what the traversal sees. -/
structure ReadsAlike (path : Path) (exclude : List String) (left right : FileTree) : Prop where
  ignoreFile : right.contentOf (path / Ignore.fileName) = left.contentOf (path / Ignore.fileName)
  entries : ∀ plan : Plan, Ignore.patternsFor left path { extra := exclude } = .ok plan.patterns →
    ∀ entries others, left.find path = .ok (.directory entries) →
      right.find path = .ok (.directory others) →
        plan.SeesAlike [] (.directory entries) (.directory others)

theorem patternsFor_of_contentOf
    (same : right.contentOf (path / Ignore.fileName) = left.contentOf (path / Ignore.fileName))
    (sources : Ignore.Sources) :
    Ignore.patternsFor right path sources = Ignore.patternsFor left path sources := by
  have read : Ignore.readPatterns right (path / Ignore.fileName) =
      Ignore.readPatterns left (path / Ignore.fileName) := by
    rw [Ignore.readPatterns, Ignore.readPatterns, FileTree.leadsToFile_of_contentOf same,
      FileTree.readText_of_contentOf same]
  rw [Ignore.patternsFor, Ignore.patternsFor, Ignore.collectPatterns, Ignore.collectPatterns, read]

section Found

variable (leftTree : left.root.IsTree) (rightTree : right.root.IsTree)
  (foundLeft : left.find path = .ok (.directory leftEntries))
  (foundRight : right.find path = .ok (.directory rightEntries))

theorem isTree_of_find {tree : FileTree} {entry : Entry} (isTree : tree.root.IsTree)
    (found : tree.find path = .ok entry) : entry.IsTree := by
  rcases FileTree.find_eq_ok_iff.mp found with ⟨place, _, reached⟩
  exact isTree.descend reached

include leftTree rightTree foundLeft foundRight

theorem assemble_of_readsAlike (alike : ReadsAlike path exclude left right) :
    (assemble left path minified exclude).result =
      (assemble right path minified exclude).result := by
  have same := patternsFor_of_contentOf alike.ignoreFile { extra := exclude }
  cases read : Ignore.patternsFor left path { extra := exclude } with
  | error error =>
      rw [read] at same
      rw [assemble, assemble, foundLeft, foundRight]
      simp only [read, same]
      cases error <;> rfl
  | ok patterns =>
      rw [read] at same
      rw [assemble_result foundLeft read, assemble_result foundRight same]
      exact addEntries_of_seesAlike (isTree_of_find leftTree foundLeft)
        (isTree_of_find rightTree foundRight)
        (alike.entries ⟨path, patterns, minified⟩ read _ _ foundLeft foundRight) {}

/-- A conversion depends on nothing but what it reads. -/
theorem convertDirectory_of_readsAlike (alike : ReadsAlike path exclude left right)
    (validate : Bool) :
    (convertDirectory left path minified validate exclude).result =
      (convertDirectory right path minified validate exclude).result := by
  have same := @assemble_of_readsAlike path exclude left right _ _ minified leftTree rightTree
    foundLeft foundRight alike
  rw [convertDirectory, convertDirectory]
  cases assembled : (assemble left path minified exclude).result with
  | error error =>
      rw [assembled] at same
      rw [Run.bind_of_error assembled, Run.bind_of_error same.symm]
  | ok scope =>
      rw [assembled] at same
      rw [Run.bind_result_of_ok assembled, Run.bind_result_of_ok same.symm]

end Found

end Conversions

/-! ## Places that are read -/

/-- A place that a conversion of the directory at `path` reads: that of the ignore file, or of an
entry that the traversal comes to. -/
inductive ReadsPlace (tree : FileTree) (path : Path) (exclude : List String) :
    List String → Prop
  | ignoreFile {base : List String} (located : tree.locate path = .ok base) :
      ReadsPlace tree path exclude (base ++ [Ignore.fileName])
  | entry {plan : Plan} {entries : List (String × Entry)} {base place : List String}
      {content : Content} (located : tree.locate path = .ok base)
      (read : Ignore.patternsFor tree path { extra := exclude } = .ok plan.patterns)
      (found : tree.find path = .ok (.directory entries))
      (seen : plan.Sees [] (.directory entries) place content) :
      ReadsPlace tree path exclude (base ++ place)

/-- All directories are still there, and at the places that are read stands what stood there. -/
structure KeepsRead (path : Path) (exclude : List String) (before after : FileTree) : Prop where
  directories : FileTree.KeepsDirectories before after
  contents : ∀ place, ReadsPlace before path exclude place →
    after.root.contentAt? place = before.root.contentAt? place

section Places

variable {path : Path} {exclude : List String} {left right : FileTree} {plan : Plan}
  {leftEntries rightEntries : List (String × Entry)} {base : List String}

theorem contentAt?_of_find {tree : FileTree} {entry : Entry} (located : tree.locate path = .ok base)
    (found : tree.find path = .ok entry) (place : List String) :
    tree.root.contentAt? (base ++ place) = entry.contentAt? place := by
  rcases FileTree.find_eq_ok_iff.mp found with ⟨same, locatedSame, reached⟩
  cases located.symm.trans locatedSame
  rw [Entry.contentAt?_append, reached, Option.bind_some]

/-- A directory that is there stays at its place. -/
theorem locate_of_keeps (keeps : FileTree.KeepsDirectories left right)
    (found : left.find path = .ok (.directory leftEntries)) :
    ∃ base, left.locate path = .ok base ∧ right.locate path = .ok base ∧
      left.root.contentAt? base = some .directory ∧
      right.root.contentAt? base = some .directory := by
  rcases FileTree.find_eq_ok_iff.mp found with ⟨base, located, reached⟩
  have directory := Entry.contentAt?_eq_directory_iff.mpr ⟨leftEntries, reached⟩
  have still := keeps.kept base directory
  exact ⟨base, located, keeps.locate located (Option.isSome_of_eq_some still), directory, still⟩

theorem exists_found_of_keeps (keeps : FileTree.KeepsDirectories left right)
    (found : left.find path = .ok (.directory leftEntries)) :
    ∃ entries, right.find path = .ok (.directory entries) := by
  rcases locate_of_keeps keeps found with ⟨base, _, located, _, standing⟩
  rcases Entry.contentAt?_eq_directory_iff.mp standing with ⟨entries, reached⟩
  exact ⟨entries, FileTree.find_eq_ok_iff.mpr ⟨base, located, reached⟩⟩

theorem KeepsRead.ignoreFile (keeps : KeepsRead path exclude left right)
    (found : left.find path = .ok (.directory leftEntries)) :
    right.contentOf (path / Ignore.fileName) = left.contentOf (path / Ignore.fileName) := by
  rcases locate_of_keeps keeps.directories found with
    ⟨base, locatedLeft, locatedRight, directoryLeft, directoryRight⟩
  exact FileTree.contentOf_child rfl rfl locatedLeft locatedRight directoryLeft directoryRight
    (by decide) (keeps.contents _ (.ignoreFile locatedLeft))

/-- What is seen before is seen after. -/
theorem KeepsRead.sees (keeps : KeepsRead path exclude left right)
    (read : Ignore.patternsFor left path { extra := exclude } = .ok plan.patterns)
    (foundLeft : left.find path = .ok (.directory leftEntries))
    (foundRight : right.find path = .ok (.directory rightEntries)) {place : List String}
    {content : Content} (seen : plan.Sees [] (.directory leftEntries) place content) :
    plan.Sees [] (.directory rightEntries) place content := by
  rcases locate_of_keeps keeps.directories foundLeft with ⟨base, locatedLeft, locatedRight, _, _⟩
  apply seen.transfer
  intro below content seenBelow
  rw [← contentAt?_of_find locatedRight foundRight,
    keeps.contents _ (.entry locatedLeft read foundLeft seenBelow),
    contentAt?_of_find locatedLeft foundLeft]
  exact seenBelow.2.1

/-- A conversion does not see a change at places that it reads neither before nor after. -/
theorem readsAlike_of_unread {changed : List String → Prop}
    (directories : FileTree.KeepsDirectories left right)
    (contents : ∀ place, ¬ changed place →
      right.root.contentAt? place = left.root.contentAt? place)
    (unreadLeft : ∀ place, ReadsPlace left path exclude place → ¬ changed place)
    (unreadRight : ∀ place, ReadsPlace right path exclude place → ¬ changed place)
    (found : left.find path = .ok (.directory leftEntries)) :
    ReadsAlike path exclude left right := by
  have keeps : KeepsRead path exclude left right :=
    ⟨directories, fun place isRead => contents place (unreadLeft place isRead)⟩
  refine ⟨keeps.ignoreFile found, ?_⟩
  intro plan read entries others foundLeft foundRight place content
  refine ⟨keeps.sees read foundLeft foundRight, fun seen => seen.transfer ?_⟩
  rcases locate_of_keeps directories foundLeft with ⟨base, locatedLeft, locatedRight, _, _⟩
  have readRight := (patternsFor_of_contentOf (keeps.ignoreFile found) _).trans read
  intro below content seenBelow
  have unchanged := unreadRight _ (.entry locatedRight readRight foundRight seenBelow)
  rw [← contentAt?_of_find locatedLeft foundLeft, ← contents _ unchanged,
    contentAt?_of_find locatedRight foundRight]
  exact seenBelow.2.1

/-- What is in files that a conversion does not read is not seen. -/
theorem readsAlike_of_isAlikeBut {changed : List String → Prop}
    (alike : FileTree.IsAlikeBut changed left right)
    (unread : ∀ place, ReadsPlace left path exclude place → ¬ changed place)
    (found : left.find path = .ok (.directory leftEntries)) :
    ReadsAlike path exclude left right := by
  have keeps : KeepsRead path exclude left right :=
    ⟨alike.keepsDirectories, fun place isRead => alike.contents place (unread place isRead)⟩
  apply readsAlike_of_unread alike.keepsDirectories alike.contents unread _ found
  intro place isRead
  rcases locate_of_keeps alike.keepsDirectories found with ⟨base, locatedLeft, locatedRight, _, _⟩
  cases isRead with
  | ignoreFile located =>
      cases locatedRight.symm.trans located
      exact unread _ (.ignoreFile locatedLeft)
  | @entry plan entries _ below content located read foundRight seen =>
      cases locatedRight.symm.trans located
      have readLeft := (patternsFor_of_contentOf (keeps.ignoreFile found) _).symm.trans read
      have kinds (place : List String) : FileTree.kindAt? (.directory leftEntries) place =
          FileTree.kindAt? (.directory entries) place := by
        rw [FileTree.kindAt?, FileTree.kindAt?, ← contentAt?_of_find locatedLeft found,
          ← contentAt?_of_find locatedRight foundRight]
        exact (alike.kinds (base ++ place)).symm
      rcases seen with ⟨nonempty, reached, isOpen⟩
      have kind := kinds below
      rw [FileTree.kindAt?, FileTree.kindAt?, reached, Option.map_some,
        Option.map_eq_some_iff] at kind
      rcases kind with ⟨old, reachedLeft, _⟩
      exact unread _ (.entry locatedLeft readLeft found
        ⟨nonempty, reachedLeft, isOpen.of_kinds fun above _ _ => kinds above⟩)

theorem readsAlike_of_isAlike (alike : FileTree.IsAlike left right) :
    ReadsAlike path exclude left right := by
  refine ⟨alike.contentOf _, ?_⟩
  intro plan read entries others foundLeft
  have reads := @readsAlike_of_isAlikeBut path exclude left right entries _
    (alike.isAlikeBut fun _ => False) (fun _ _ => id) foundLeft
  exact reads.entries plan read entries others foundLeft

theorem ReadsAlike.trans {middle : FileTree} (first : ReadsAlike path exclude left middle)
    (second : ReadsAlike path exclude middle right)
    (found : ∀ entries, left.find path = .ok (.directory entries) →
      ∃ others, middle.find path = .ok (.directory others)) :
    ReadsAlike path exclude left right := by
  refine ⟨second.ignoreFile.trans first.ignoreFile, ?_⟩
  intro plan read entries others foundLeft foundRight
  rcases found entries foundLeft with ⟨between, foundMiddle⟩
  have readMiddle := (patternsFor_of_contentOf first.ignoreFile _).trans read
  intro place content
  exact (first.entries plan read _ _ foundLeft foundMiddle place content).trans
    (second.entries plan readMiddle _ _ foundMiddle foundRight place content)

/-- The places that are read are the same in trees that read alike. -/
theorem ReadsAlike.readsPlace (alike : ReadsAlike path exclude left right)
    (keeps : FileTree.KeepsDirectories left right)
    (found : left.find path = .ok (.directory leftEntries)) {place : List String}
    (isRead : ReadsPlace right path exclude place) : ReadsPlace left path exclude place := by
  rcases locate_of_keeps keeps found with ⟨base, locatedLeft, locatedRight, _, _⟩
  cases isRead with
  | ignoreFile located =>
      cases locatedRight.symm.trans located
      exact .ignoreFile locatedLeft
  | entry located read foundRight seen =>
      cases locatedRight.symm.trans located
      have readLeft := (patternsFor_of_contentOf alike.ignoreFile _).symm.trans read
      exact .entry locatedLeft readLeft found
        ((alike.entries _ readLeft _ _ found foundRight _ _).mpr seen)

/-- What is assembled from a tree is also assembled from one with fewer entries to see. -/
theorem KeepsRead.exists_scope (keeps : KeepsRead path exclude left right)
    (leftTree : left.root.IsTree) (rightTree : right.root.IsTree)
    (foundLeft : left.find path = .ok (.directory leftEntries)) {minified : Bool} {scope : Scope}
    (assembled : (assemble right path minified exclude).result = .ok scope) :
    ∃ other, (assemble left path minified exclude).result = .ok other := by
  rcases exists_found_of_keeps keeps.directories foundLeft with ⟨rightEntries, foundRight⟩
  have same := patternsFor_of_contentOf (keeps.ignoreFile foundLeft) { extra := exclude }
  cases read : Ignore.patternsFor left path { extra := exclude } with
  | error error =>
      rw [read] at same
      rw [assemble, foundRight] at assembled
      simp only [same] at assembled
      cases error <;> cases assembled
  | ok patterns =>
      rw [read] at same
      have compiles : ∀ place bytes,
          Plan.Visits ⟨path, patterns, minified⟩ (.directory leftEntries) place (.file bytes) →
            ∃ template, (compileFile (lastName place) (FileTree.decodeText bytes) minified).result =
              .ok template := by
        rintro place bytes ⟨nonempty, reached, isOpen⟩
        have seen : Plan.Sees ⟨path, patterns, minified⟩ [] (.directory leftEntries) place
            (.file bytes) := ⟨nonempty, Entry.contentAt?_eq_file_iff.mpr reached, isOpen⟩
        rcases keeps.sees read foundLeft foundRight seen with ⟨_, isFile, openRight⟩
        exact compiles_of_assembled foundRight (isTree_of_find rightTree foundRight) same assembled
          ⟨nonempty, Entry.contentAt?_eq_file_iff.mp isFile, openRight⟩
      rcases exists_assembled foundLeft (isTree_of_find leftTree foundLeft) read compiles with
        ⟨other, ok, _⟩
      exact ⟨other, ok⟩

end Places

end Stencil.Assembly
