import Stencil.Proofs.Files.Content
import Mathlib.Data.List.Nodup

/-!
Trees stay trees: with the names distinct in every directory before an operation, they are distinct
after it.
-/

namespace Stencil

namespace Entry

variable {root entry : Entry} {entries : List (String × Entry)} {name : String}

theorem IsTree.of_mem (tree : (directory entries).IsTree) {pair : String × Entry}
    (member : pair ∈ entries) : pair.2.IsTree :=
  tree.child ((child?_eq_some_iff tree).mpr member)

theorem IsTree.descend {place : List String} (tree : root.IsTree)
    (found : root.descend? place = some entry) : entry.IsTree := by
  induction place generalizing root with
  | nil =>
      cases found
      exact tree
  | cons name place induction =>
      rcases descend?_cons.mp found with ⟨child, isChild, further⟩
      exact induction (tree.child isChild) further

theorem isTree_of_all (distinct : (entries.map (·.1)).Nodup)
    (below : ∀ pair ∈ entries, pair.2.IsTree) : (directory entries).IsTree :=
  isTree_directory distinct fun name entry => below (name, entry)

theorem isTree_empty : (directory []).IsTree :=
  isTree_directory List.nodup_nil fun _ _ member => nomatch member

theorem IsTree.isTree_entries (tree : root.IsTree) : (directory root.entries).IsTree := by
  cases root with
  | file bytes => exact isTree_empty
  | directory entries => exact tree

theorem names_setEntry (entries : List (String × Entry)) (name : String) (entry : Entry) :
    (FileTree.setEntry entries name entry).map (·.1) =
      if name ∈ entries.map (·.1) then entries.map (·.1) else entries.map (·.1) ++ [name] := by
  have present : (entries.find? (·.1 == name)).isSome = true ↔ name ∈ entries.map (·.1) := by
    simp [List.find?_isSome]
  rw [FileTree.setEntry]
  by_cases there : name ∈ entries.map (·.1)
  · rw [if_pos (present.mpr there), if_pos there, List.map_map]
    apply List.map_congr_left
    intro pair _
    dsimp only [Function.comp]
    split <;> rfl
  · rw [if_neg (mt present.mp there), if_neg there, List.map_append]
    rfl

theorem mem_setEntry {pair : String × Entry}
    (member : pair ∈ FileTree.setEntry entries name entry) : pair.2 = entry ∨ pair ∈ entries := by
  rw [FileTree.setEntry] at member
  split at member
  · rcases List.mem_map.mp member with ⟨old, listed, rfl⟩
    dsimp only
    split
    · exact .inl rfl
    · exact .inr listed
  · rcases List.mem_append.mp member with old | new
    · exact .inr old
    · rw [List.mem_singleton.mp new]
      exact .inl rfl

theorem IsTree.setEntry (tree : (directory entries).IsTree) (new : entry.IsTree) :
    (directory (FileTree.setEntry entries name entry)).IsTree := by
  apply isTree_directory
  · rw [names_setEntry]
    have distinct : (entries.map (·.1)).Nodup := tree.nodup
    split
    · exact distinct
    · rename_i absent
      rw [← List.concat_eq_append]
      exact distinct.concat absent
  · intro other below member
    rcases mem_setEntry member with same | old
    · rw [show below = entry from same]
      exact new
    · exact tree.of_mem old

theorem IsTree.setAt {place : List String} (tree : root.IsTree) (new : entry.IsTree) :
    (FileTree.setAt root place entry).IsTree := by
  induction place generalizing root with
  | nil => exact new
  | cons name place induction =>
      rw [FileTree.setAt]
      apply tree.isTree_entries.setEntry
      cases found : root.child? name with
      | none => exact induction isTree_empty
      | some child => exact induction (tree.child found)

theorem IsTree.removeAt {place : List String} (tree : root.IsTree) :
    (FileTree.removeAt root place).IsTree := by
  induction place generalizing root with
  | nil => exact tree
  | cons name place induction =>
      cases place with
      | nil =>
          have whole : (directory root.entries).IsTree := tree.isTree_entries
          apply isTree_directory
          · exact whole.nodup.sublist (List.filter_sublist.map _)
          · intro other below member
            exact whole.of_mem (List.mem_filter.mp member).1
      | cons next place =>
          rw [FileTree.removeAt]
          · split
            · exact tree
            · rename_i child found
              exact tree.isTree_entries.setEntry (induction (tree.child found))
          · intro absurdity
            cases absurdity

end Entry

namespace FileTree

variable {tree after : FileTree} {path : Path}

theorem isTree_rename {source target : List String} (isTree : tree.root.IsTree) :
    (tree.rename source target).root.IsTree := by
  rw [rename]
  split
  · exact isTree
  · rename_i entry found
    exact isTree.removeAt.setAt (isTree.descend found)

theorem isTree_writeBytes {bytes : Utf8.Bytes} (isTree : tree.root.IsTree)
    (written : tree.writeBytes path bytes = .ok after) : after.root.IsTree := by
  rw [writeBytes] at written
  split at written
  · cases written
  · split at written
    · cases written
    · cases written
      exact isTree.setAt (Entry.isTree_file bytes)

theorem isTree_makeDirectory (isTree : tree.root.IsTree)
    (made : tree.makeDirectory path = .ok after) : after.root.IsTree := by
  rw [makeDirectory] at made
  split at made
  · cases made
  · split at made
    · cases made
    · cases made
      exact isTree.setAt Entry.isTree_empty
  · cases made

theorem isTree_makeDirectoriesUpTo {names : Nat} (isTree : tree.root.IsTree)
    (made : tree.makeDirectoriesUpTo path names = .ok after) : after.root.IsTree := by
  induction names generalizing path after with
  | zero =>
      rw [makeDirectoriesUpTo] at made
      split at made
      · cases made
        exact isTree
      · cases made
  | succ names induction =>
      rw [makeDirectoriesUpTo] at made
      split at made
      · rename_i same
        cases made
        exact isTree_makeDirectory isTree same
      · split at made
        · cases made
        · rename_i above parentMade
          have parentTree := induction parentMade
          split at made
          · rename_i same
            cases made
            exact isTree_makeDirectory parentTree same
          · split at made
            · cases made
              exact parentTree
            · cases made
      · split at made
        · cases made
          exact isTree
        · cases made

theorem isTree_makeDirectories (isTree : tree.root.IsTree)
    (made : tree.makeDirectories path = .ok after) : after.root.IsTree :=
  isTree_makeDirectoriesUpTo isTree made

end FileTree

end Stencil
