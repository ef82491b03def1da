import Stencil.Proofs.Assembly.Sight

/-!
Trees whose directories list their entries in another order. Sorting undoes every such order at
every level, and a conversion sorts whatever it goes through, so it comes to the same end with the
same events on the way.
-/

namespace Stencil

namespace Entry

/-! ## Other orders -/

mutual

/-- The same tree with the entries of each directory, at every level, listed in any order. -/
inductive Relists : Entry → Entry → Prop
  | file (bytes : Utf8.Bytes) : Relists (.file bytes) (.file bytes)
  | directory {entries others listed : List (String × Entry)} (below : RelistsBelow entries others)
      (order : others.Perm listed) : Relists (.directory entries) (.directory listed)

/-- The same entries in the same order, with other orders below them. -/
inductive RelistsBelow : List (String × Entry) → List (String × Entry) → Prop
  | nil : RelistsBelow [] []
  | cons {name : String} {entry other : Entry} {entries others : List (String × Entry)}
      (head : Relists entry other) (tail : RelistsBelow entries others) :
      RelistsBelow ((name, entry) :: entries) ((name, other) :: others)

end

mutual

theorem Relists.refl : (entry : Entry) → Relists entry entry
  | .file bytes => .file bytes
  | .directory entries => .directory (RelistsBelow.refl entries) (.refl entries)

theorem RelistsBelow.refl : (entries : List (String × Entry)) → RelistsBelow entries entries
  | [] => .nil
  | (_, entry) :: later => .cons (Relists.refl entry) (RelistsBelow.refl later)

end

theorem RelistsBelow.names {entries others : List (String × Entry)} :
    RelistsBelow entries others → others.map (·.1) = entries.map (·.1)
  | .nil => rfl
  | .cons _ tail => by rw [List.map_cons, List.map_cons, tail.names]

mutual

theorem Relists.isTree {entry other : Entry} :
    Relists entry other → entry.IsTree → other.IsTree
  | .file _, isTree => isTree
  | .directory below order, isTree => by
      apply isTree_of_all
      · rw [← (order.map (·.1)).nodup_iff, below.names]
        exact isTree.nodup
      · intro pair member
        exact below.isTree (fun other => isTree.of_mem) pair (order.mem_iff.mpr member)

theorem RelistsBelow.isTree {entries others : List (String × Entry)} :
    RelistsBelow entries others → (∀ pair ∈ entries, pair.2.IsTree) →
      ∀ pair ∈ others, pair.2.IsTree
  | .nil, _ => fun _ member => nomatch member
  | .cons head tail, areTrees => by
      intro pair member
      rcases List.mem_cons.mp member with rfl | later
      · exact head.isTree (areTrees _ List.mem_cons_self)
      · exact tail.isTree (fun other inTail => areTrees other (List.mem_cons_of_mem _ inTail)) pair
          later

end

/-- Entries with distinct names have one order by name. -/
theorem mergeSort_eq_of_perm {entries others : List (String × Entry)}
    (distinct : (entries.map (·.1)).Nodup) (order : entries.Perm others) :
    entries.mergeSort nameBefore = others.mergeSort nameBefore := by
  have sameEntries : (entries.mergeSort nameBefore).Perm (others.mergeSort nameBefore) :=
    (List.mergeSort_perm entries nameBefore).trans
      (order.trans (List.mergeSort_perm others nameBefore).symm)
  apply sameEntries.eq_of_pairwise _ (pairwise_mergeSort entries) (pairwise_mergeSort others)
  intro left right leftListed rightListed before after
  have inEntries := List.mem_mergeSort.mp leftListed
  have inEntriesToo := order.mem_iff.mpr (List.mem_mergeSort.mp rightListed)
  exact List.inj_on_of_nodup_map distinct inEntries inEntriesToo (le_antisymm before after)

mutual

/-- Sorting undoes every order. -/
theorem Relists.sorted_eq {entry other : Entry} :
    Relists entry other → entry.IsTree → other.sorted = entry.sorted
  | .file _, _ => rfl
  | @Relists.directory entries others listed below order, isTree => by
      have distinct : ((sortedEntries others).map (·.1)).Nodup := by
        rw [sortedEntries_eq, List.map_map]
        exact below.names.symm ▸ isTree.nodup
      have orderBelow : (sortedEntries others).Perm (sortedEntries listed) := by
        rw [sortedEntries_eq, sortedEntries_eq]
        exact order.map _
      rw [sorted, sorted, ← mergeSort_eq_of_perm distinct orderBelow,
        below.sortedEntries_eq fun pair => isTree.of_mem]

theorem RelistsBelow.sortedEntries_eq {entries others : List (String × Entry)} :
    RelistsBelow entries others → (∀ pair ∈ entries, pair.2.IsTree) →
      sortedEntries others = sortedEntries entries
  | .nil, _ => rfl
  | .cons head tail, areTrees => by
      rw [sortedEntries, sortedEntries, head.sorted_eq (areTrees _ List.mem_cons_self),
        tail.sortedEntries_eq fun pair inTail => areTrees pair (List.mem_cons_of_mem _ inTail)]

end

/-! ## Sorted trees -/

variable {root : Entry}

theorem sorted_sorted (entry : Entry) : entry.sorted.sorted = entry.sorted := by
  induction entry using Entry.induction with
  | file bytes => rw [sorted, sorted]
  | directory entries induction =>
      rw [sorted]
      apply sorted_directory _ (pairwise_mergeSort _)
      intro name entry member
      rw [List.mem_mergeSort, sortedEntries_eq] at member
      rcases List.mem_map.mp member with ⟨pair, listed, same⟩
      cases same
      exact induction pair.1 pair.2 listed

theorem isTree_sorted (isTree : root.IsTree) : root.sorted.IsTree := by
  induction root using Entry.induction with
  | file bytes => rwa [sorted]
  | directory entries induction =>
      have increasing := sorted_increasing isTree
      have below := @mem_sorted (.directory entries)
      rw [sorted] at increasing below ⊢
      apply isTree_directory
      · exact List.pairwise_map.mpr (increasing.imp fun before => ne_of_lt before)
      · intro name entry member
        rcases below.mp member with ⟨child, listed, rfl⟩
        exact induction name child listed (isTree.of_mem listed)

theorem child?_sorted (isTree : root.IsTree) (name : String) :
    root.sorted.child? name = (root.child? name).map sorted := by
  ext entry
  rw [child?_eq_some_iff (isTree_sorted isTree), mem_sorted, Option.map_eq_some_iff]
  simp only [child?_eq_some_iff isTree, eq_comm]

theorem descend?_sorted (isTree : root.IsTree) (place : List String) :
    root.sorted.descend? place = (root.descend? place).map sorted := by
  induction place generalizing root with
  | nil => rfl
  | cons name place induction =>
      rw [descend?, descend?, child?_sorted isTree]
      cases found : root.child? name with
      | none => rfl
      | some child => exact induction (isTree.child found)

theorem content_sorted (entry : Entry) : entry.sorted.content = entry.content := by
  cases entry with
  | file bytes => rw [sorted]
  | directory entries =>
      rw [sorted]
      rfl

theorem contentAt?_sorted (isTree : root.IsTree) (place : List String) :
    root.sorted.contentAt? place = root.contentAt? place := by
  rw [contentAt?, contentAt?, descend?_sorted isTree, Option.map_map]
  congr 1
  funext entry
  exact content_sorted entry

end Entry

namespace FileTree

/-- The tree with the entries of each directory in the order of their names. -/
def sorted (tree : FileTree) : FileTree := { tree with root := tree.root.sorted }

/-- The same tree with the entries of each directory listed in any order. -/
structure Relists (tree listing : FileTree) : Prop where
  root : tree.root.Relists listing.root
  working : listing.working = tree.working

variable {tree listing : FileTree}

theorem Relists.sorted_eq (relists : tree.Relists listing) (isTree : tree.root.IsTree) :
    listing.sorted = tree.sorted := by
  rw [sorted, sorted, relists.root.sorted_eq isTree, relists.working]

theorem isAlike_sorted (isTree : tree.root.IsTree) : IsAlike tree tree.sorted :=
  ⟨rfl, Entry.contentAt?_sorted isTree⟩

theorem find_sorted (isTree : tree.root.IsTree) (path : Path) :
    tree.sorted.find path = (tree.find path).map Entry.sorted := by
  rw [find, find, (isAlike_sorted isTree).locate]
  cases tree.locate path with
  | error fault => rfl
  | ok place =>
      simp only [sorted, Entry.descend?_sorted isTree]
      cases tree.root.descend? place <;> rfl

end FileTree

/-! ## Conversions -/

namespace Assembly

section Conversions

variable {tree : FileTree} (isTree : tree.root.IsTree) (path : Path) (minified : Bool)
  (exclude : List String)

include isTree

/-- Assembly does not tell a tree from its sorted form, neither by its events nor by its result. -/
theorem assemble_sorted :
    assemble tree.sorted path minified exclude = assemble tree path minified exclude := by
  have samePatterns : Ignore.patternsFor tree.sorted path { extra := exclude } =
      Ignore.patternsFor tree path { extra := exclude } :=
    patternsFor_of_contentOf ((FileTree.isAlike_sorted isTree).contentOf _) _
  have sameFound := FileTree.find_sorted isTree path
  rw [assemble, assemble, samePatterns, sameFound]
  cases tree.find path with
  | error fault => cases fault <;> rfl
  | ok entry =>
      cases entry with
      | file bytes => rfl
      | directory entries =>
          have again := Entry.sorted_sorted (.directory entries)
          rcases Entry.isDirectory_iff.mp (Entry.isDirectory_sorted (.directory entries)) with
            ⟨inner, same⟩
          rw [same] at again
          simp only [Except.map, same, again]

/-- However the directories of a tree list their entries, conversion gives the same source or the
same error, after the same events. -/
theorem convertDirectory_relisted {first second : FileTree} (firstListing : tree.Relists first)
    (secondListing : tree.Relists second) (validate : Bool) :
    convertDirectory first path minified validate exclude =
      convertDirectory second path minified validate exclude := by
  have firstTree := firstListing.root.isTree isTree
  have secondTree := secondListing.root.isTree isTree
  have same : assemble first path minified exclude = assemble second path minified exclude := by
    rw [← assemble_sorted firstTree, ← assemble_sorted secondTree,
      firstListing.sorted_eq isTree, secondListing.sorted_eq isTree]
  rw [convertDirectory, convertDirectory, same]

end Conversions

/-! ## Two pages beside another one -/

def pages : List (String × Entry) := [("b.html", .file [120]), ("a.html", .file [121])]

def pagesBeside (inner : List (String × Entry)) : List (String × Entry) :=
  [("c.html", .file [122]), ("v1.0", .directory inner)]

def treeOf (entries : List (String × Entry)) : FileTree :=
  ⟨.directory [("t", .directory entries)], []⟩

theorem pages_isTree : (treeOf (pagesBeside pages)).root.IsTree := by
  have leaves : (Entry.directory pages).IsTree :=
    Entry.isTree_of_all (by decide) (by simp [pages, Entry.isTree_file])
  have inside : (Entry.directory (pagesBeside pages)).IsTree :=
    Entry.isTree_of_all (by decide) (by simp [pagesBeside, Entry.isTree_file, leaves])
  exact Entry.isTree_of_all (by simp) (by simp [inside])

theorem relists_treeOf {entries others : List (String × Entry)}
    (relists : (Entry.directory entries).Relists (.directory others)) :
    (treeOf entries).Relists (treeOf others) :=
  ⟨.directory (.cons relists .nil) (.refl _), rfl⟩

theorem relists_pages {listed : List (String × Entry)}
    (order : (pagesBeside pages.reverse).Perm listed) :
    (Entry.directory (pagesBeside pages)).Relists (.directory listed) := by
  have reversed : (Entry.directory pages).Relists (.directory pages.reverse) :=
    .directory (.refl _) (List.reverse_perm pages).symm
  exact .directory (.cons (.file _) (.cons reversed .nil)) order

/-- Pages that are listed backwards below, or at both levels. -/
theorem convertDirectory_pages :
    (treeOf (pagesBeside pages)).root.IsTree ∧
      (treeOf (pagesBeside pages)).Relists (treeOf (pagesBeside pages.reverse)) ∧
      (treeOf (pagesBeside pages)).Relists (treeOf (pagesBeside pages.reverse).reverse) ∧
      convertDirectory (treeOf (pagesBeside pages.reverse)) (.ofString "t") true true [] =
        convertDirectory (treeOf (pagesBeside pages.reverse).reverse) (.ofString "t") true true
          [] := by
  have first := relists_treeOf (relists_pages (.refl _))
  have second := relists_treeOf (relists_pages (List.reverse_perm _).symm)
  exact ⟨pages_isTree, first, second,
    convertDirectory_relisted pages_isTree _ true [] first second true⟩

end Assembly

end Stencil
