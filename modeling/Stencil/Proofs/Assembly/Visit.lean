import Mathlib.Data.String.Basic
import Stencil.Assembly

/-!
The entries that a traversal comes to, in the order in which it does. They are the entries that
are not left out themselves and are below no directory that is; their places are in strictly
increasing order, with the names of a place compared one after the other.
-/

namespace Stencil

namespace Entry

/-! ## Trees -/

/-- A tree has the property if its files have it and each directory with entries that have it. -/
theorem induction {motive : Entry → Prop} (file : ∀ bytes, motive (.file bytes))
    (directory : ∀ entries, (∀ name entry, (name, entry) ∈ entries → motive entry) →
      motive (.directory entries)) (entry : Entry) : motive entry := by
  match entry with
  | .file bytes => exact file bytes
  | .directory entries =>
      apply directory
      intro name entry member
      exact induction file directory entry
termination_by sizeOf entry
decreasing_by
  have smaller := List.sizeOf_lt_of_mem member
  simp only [Prod.mk.sizeOf_spec] at smaller
  simp only [Entry.directory.sizeOf_spec]
  omega

/-- The names of the entries are distinct in every directory of the tree. -/
def IsTree (root : Entry) : Prop :=
  ∀ place entries, root.descend? place = some (.directory entries) →
    (entries.map (·.1)).Nodup

theorem IsTree.nodup {root : Entry} (tree : root.IsTree) : (root.entries.map (·.1)).Nodup := by
  cases root with
  | file bytes => exact List.nodup_nil
  | directory entries => exact tree [] entries rfl

theorem IsTree.child {root entry : Entry} {name : String} (tree : root.IsTree)
    (found : root.child? name = some entry) : entry.IsTree := by
  intro place entries below
  apply tree (name :: place)
  rw [descend?, found]
  exact below

theorem child?_eq_some_iff {root entry : Entry} {name : String} (tree : root.IsTree) :
    root.child? name = some entry ↔ (name, entry) ∈ root.entries := by
  have distinct := tree.nodup
  rw [child?]
  generalize root.entries = entries at distinct ⊢
  induction entries with
  | nil => simp
  | cons head tail induction =>
      rw [List.map_cons, List.nodup_cons] at distinct
      by_cases equal : head.1 = name
      · have absent : (name, entry) ∉ tail := fun member =>
          distinct.1 (equal ▸ List.mem_map.mpr ⟨(name, entry), member, rfl⟩)
        rcases head with ⟨headName, headEntry⟩
        simp only at equal
        simp [equal, absent, eq_comm]
      · have other : (name, entry) ≠ head := fun same => equal (congrArg Prod.fst same).symm
        simpa [List.find?_cons, equal, other] using induction distinct.2

theorem descend?_cons {root : Entry} {name : String} {rest : List String} {entry : Entry} :
    root.descend? (name :: rest) = some entry ↔
      ∃ child, root.child? name = some child ∧ child.descend? rest = some entry := by
  rw [descend?, Option.bind_eq_some_iff]

theorem descend?_append (root : Entry) (above later : List String) :
    root.descend? (above ++ later) = (root.descend? above).bind (·.descend? later) := by
  induction above generalizing root with
  | nil => rfl
  | cons name above induction =>
      rw [List.cons_append, descend?, descend?, Option.bind_assoc]
      congr 1
      funext child
      exact induction child

theorem isTree_file (bytes : Utf8.Bytes) : (file bytes).IsTree := by
  intro place entries reached
  cases place with
  | nil => cases reached
  | cons name rest => cases reached

theorem isTree_directory {entries : List (String × Entry)} (distinct : (entries.map (·.1)).Nodup)
    (below : ∀ name entry, (name, entry) ∈ entries → entry.IsTree) :
    (directory entries).IsTree := by
  intro place inner reached
  cases place with
  | nil =>
      cases reached
      exact distinct
  | cons name rest =>
      rcases descend?_cons.mp reached with ⟨child, found, further⟩
      rcases Option.map_eq_some_iff.mp found with ⟨pair, located, rfl⟩
      exact below pair.1 pair.2 (List.mem_of_find?_eq_some located) rest inner further

@[simp] theorem isDirectory_file (bytes : Utf8.Bytes) : (file bytes).isDirectory = false := rfl

@[simp] theorem isDirectory_directory (entries : List (String × Entry)) :
    (directory entries).isDirectory = true := rfl

theorem isDirectory_iff {entry : Entry} :
    entry.isDirectory ↔ ∃ entries, entry = directory entries := by
  cases entry <;> simp

theorem not_isDirectory_iff {entry : Entry} :
    (!entry.isDirectory) ↔ ∃ bytes, entry = file bytes := by
  cases entry <;> simp

/-! ## Sorted trees -/

theorem sortedEntries_eq (entries : List (String × Entry)) :
    sortedEntries entries = entries.map fun (name, entry) => (name, entry.sorted) := by
  induction entries with
  | nil => rfl
  | cons head tail induction => rw [sortedEntries, induction, List.map_cons]

theorem isDirectory_sorted (entry : Entry) : entry.sorted.isDirectory = entry.isDirectory := by
  cases entry with
  | file bytes => rfl
  | directory entries => rw [sorted]; rfl

theorem eq_file_of_sorted {entry : Entry} {bytes : Utf8.Bytes} (equal : entry.sorted = file bytes) :
    entry = file bytes := by
  cases entry with
  | file other => rwa [sorted] at equal
  | directory entries =>
      rw [sorted] at equal
      cases equal

theorem mem_sorted {root entry : Entry} {name : String} :
    (name, entry) ∈ root.sorted.entries ↔
      ∃ child, (name, child) ∈ root.entries ∧ entry = child.sorted := by
  cases root with
  | file bytes => simp [sorted, entries]
  | directory list =>
      rw [sorted, entries, entries, List.mem_mergeSort, sortedEntries_eq, List.mem_map]
      constructor
      · rintro ⟨pair, member, equal⟩
        cases equal
        exact ⟨pair.2, member, rfl⟩
      · rintro ⟨child, member, equal⟩
        exact ⟨(name, child), member, by rw [equal]⟩

theorem nodup_mergeSort {entries : List (String × Entry)} (distinct : (entries.map (·.1)).Nodup) :
    (entries.mergeSort nameBefore).Pairwise fun left right => left.1 ≠ right.1 := by
  apply List.pairwise_map.mp
  exact ((List.mergeSort_perm entries nameBefore).map (·.1)).nodup_iff.mpr distinct

theorem pairwise_mergeSort (entries : List (String × Entry)) :
    (entries.mergeSort nameBefore).Pairwise fun left right => left.1 ≤ right.1 := by
  have transitive (first second third : String × Entry) :
      nameBefore first second → nameBefore second third → nameBefore first third := by
    simpa [nameBefore] using String.le_trans
  have total (first second : String × Entry) :
      nameBefore first second || nameBefore second first := by
    simpa [nameBefore] using String.le_total first.1 second.1
  apply (List.pairwise_mergeSort transitive total entries).imp
  intro left right before
  simpa [nameBefore] using before

/-- A directory with its entries in order stays as it is if each of them does. -/
theorem sorted_directory {entries : List (String × Entry)}
    (below : ∀ name entry, (name, entry) ∈ entries → entry.sorted = entry)
    (increasing : entries.Pairwise fun left right => left.1 ≤ right.1) :
    (directory entries).sorted = directory entries := by
  have unchanged : ∀ pair ∈ entries, (pair.1, pair.2.sorted) = pair := by
    intro pair member
    rw [below pair.1 pair.2 member]
  have same : sortedEntries entries = entries := by
    rw [sortedEntries_eq, List.map_congr_left unchanged, List.map_id']
  rw [sorted, same, List.mergeSort_of_pairwise]
  simpa [nameBefore] using increasing

theorem sorted_files {entries : List (String × Entry)}
    (files : entries.all fun pair => !pair.2.isDirectory)
    (increasing : entries.Pairwise fun left right => left.1 ≤ right.1) :
    (directory entries).sorted = directory entries := by
  apply sorted_directory _ increasing
  intro name entry member
  rcases not_isDirectory_iff.mp (List.all_eq_true.mp files _ member) with ⟨bytes, rfl⟩
  rw [sorted]

theorem sorted_increasing {root : Entry} (tree : root.IsTree) :
    root.sorted.entries.Pairwise fun left right => left.1 < right.1 := by
  cases root with
  | file bytes =>
      rw [sorted]
      exact List.Pairwise.nil
  | directory list =>
      have distinct : ((sortedEntries list).map (·.1)).Nodup := by
        rw [sortedEntries_eq, List.map_map]
        exact tree.nodup
      rw [sorted, entries]
      apply ((pairwise_mergeSort _).and (nodup_mergeSort distinct)).imp
      intro left right both
      exact lt_of_le_of_ne both.1 both.2

end Entry

namespace Assembly

/-! ## Visits -/

/-- Whether a traversal takes up the entry at `place`, and with it what is below. -/
def Plan.admits (plan : Plan) (place : List String) (entry : Entry) : Bool :=
  !isIgnoreFile place && !plan.excludes place entry

theorem Plan.admits_sorted (plan : Plan) (place : List String) (entry : Entry) :
    plan.admits place entry.sorted = plan.admits place entry := by
  simp only [admits, excludes, Entry.isDirectory_sorted]

/-- An entry that a traversal comes to, by the names of the directories above it and its own. -/
structure Visit where
  parents : List String
  name : String
  entry : Entry

namespace Visit

def place (visit : Visit) : List String := visit.parents ++ [visit.name]

/-- The same visit seen from the directory that holds this one under that name. -/
def under (directory : String) (visit : Visit) : Visit :=
  { visit with parents := directory :: visit.parents }

end Visit

mutual

/-- The visits of a traversal of the entries of the directory at `place`. -/
def visitsIn (plan : Plan) (place : List String) : List (String × Entry) → List Visit
  | [] => []
  | (name, entry) :: later =>
      if plan.admits (place ++ [name]) entry then
        ⟨[], name, entry⟩ :: (visitsBelow plan (place ++ [name]) entry).map (Visit.under name) ++
          visitsIn plan place later
      else visitsIn plan place later

/-- The visits of a traversal of what is below the entry at `place`. -/
def visitsBelow (plan : Plan) (place : List String) : Entry → List Visit
  | .file _ => []
  | .directory entries => visitsIn plan place entries

end

theorem visitsBelow_eq (plan : Plan) (place : List String) (entry : Entry) :
    visitsBelow plan place entry = visitsIn plan place entry.entries := by
  cases entry with
  | file bytes => rw [visitsBelow, Entry.entries, visitsIn]
  | directory entries => rw [visitsBelow, Entry.entries]

theorem mem_visitsIn {plan : Plan} {place : List String} {entries : List (String × Entry)}
    {visit : Visit} :
    visit ∈ visitsIn plan place entries ↔
      ∃ name entry, (name, entry) ∈ entries ∧ plan.admits (place ++ [name]) entry ∧
        (visit = ⟨[], name, entry⟩ ∨
          ∃ inner ∈ visitsBelow plan (place ++ [name]) entry, inner.under name = visit) := by
  induction entries with
  | nil => simp [visitsIn]
  | cons head tail induction =>
      rcases head with ⟨name, entry⟩
      rw [visitsIn]
      by_cases admitted : plan.admits (place ++ [name]) entry
      · rw [if_pos admitted, List.cons_append, List.mem_cons, List.mem_append, List.mem_map,
          induction]
        constructor
        · rintro (here | below | ⟨other, inner, member, later⟩)
          · exact ⟨name, entry, List.mem_cons_self, admitted, .inl here⟩
          · exact ⟨name, entry, List.mem_cons_self, admitted, .inr below⟩
          · exact ⟨other, inner, List.mem_cons_of_mem _ member, later⟩
        · rintro ⟨other, inner, member, admittedToo, reached⟩
          rcases List.mem_cons.mp member with same | member
          · cases same
            rcases reached with here | below
            · exact .inl here
            · exact .inr (.inl below)
          · exact .inr (.inr ⟨other, inner, member, admittedToo, reached⟩)
      · rw [if_neg admitted, induction]
        constructor
        · rintro ⟨other, inner, member, later⟩
          exact ⟨other, inner, List.mem_cons_of_mem _ member, later⟩
        · rintro ⟨other, inner, member, admittedToo, reached⟩
          rcases List.mem_cons.mp member with same | member
          · cases same
            exact absurd admittedToo admitted
          · exact ⟨other, inner, member, admittedToo, reached⟩

/-- Neither the entry at `place` below `root` nor a directory on the way to it is left out by a
traversal that has come to `root` at `start`. -/
def Plan.IsOpen (plan : Plan) (start : List String) (root : Entry) (place : List String) : Prop :=
  ∀ above entry, above ≠ [] → above <+: place → root.descend? above = some entry →
    plan.admits (start ++ above) entry

theorem Plan.isOpen_nil (plan : Plan) (start : List String) (root : Entry) :
    plan.IsOpen start root [] := by
  intro above entry nonempty before
  exact absurd (List.prefix_nil.mp before) nonempty

theorem Plan.isOpen_cons {plan : Plan} {start : List String} {root child : Entry} {name : String}
    (found : root.child? name = some child) (rest : List String) :
    plan.IsOpen start root (name :: rest) ↔
      plan.admits (start ++ [name]) child ∧ plan.IsOpen (start ++ [name]) child rest := by
  constructor
  · intro isOpen
    constructor
    · apply isOpen [name] child (List.cons_ne_nil _ _) ⟨rest, rfl⟩
      exact Entry.descend?_cons.mpr ⟨child, found, rfl⟩
    · intro above entry nonempty before reached
      rw [List.append_assoc]
      apply isOpen (name :: above) entry (List.cons_ne_nil _ _)
        ((List.prefix_cons_inj name).mpr before)
      exact Entry.descend?_cons.mpr ⟨child, found, reached⟩
  · rintro ⟨admitted, isOpen⟩ above entry nonempty before reached
    cases above with
    | nil => exact absurd rfl nonempty
    | cons first later =>
        rcases List.cons_prefix_cons.mp before with ⟨rfl, shorter⟩
        rcases Entry.descend?_cons.mp reached with ⟨inner, same, reached⟩
        rw [found] at same
        cases same
        cases later with
        | nil =>
            cases reached
            exact admitted
        | cons second later =>
            have below := isOpen (second :: later) entry (List.cons_ne_nil _ _) shorter reached
            rwa [List.append_assoc] at below

theorem mem_visitsBelow_step {plan : Plan} {start : List String} {root : Entry}
    (tree : root.IsTree) {visit : Visit} :
    visit ∈ visitsBelow plan start root.sorted ↔
      ∃ name child, root.child? name = some child ∧ plan.admits (start ++ [name]) child ∧
        (visit = ⟨[], name, child.sorted⟩ ∨
          ∃ inner ∈ visitsBelow plan (start ++ [name]) child.sorted,
            inner.under name = visit) := by
  rw [visitsBelow_eq, mem_visitsIn]
  constructor
  · rintro ⟨name, entry, member, admitted, reached⟩
    rcases Entry.mem_sorted.mp member with ⟨child, original, rfl⟩
    rw [Plan.admits_sorted] at admitted
    exact ⟨name, child, (Entry.child?_eq_some_iff tree).mpr original, admitted, reached⟩
  · rintro ⟨name, child, found, admitted, reached⟩
    refine ⟨name, child.sorted, ?_, ?_, reached⟩
    · exact Entry.mem_sorted.mpr ⟨child, (Entry.child?_eq_some_iff tree).mp found, rfl⟩
    · rwa [Plan.admits_sorted]

/-- A traversal of a sorted tree comes to the entries that are open to it. -/
theorem mem_visitsBelow {plan : Plan} {start : List String} {root : Entry} (tree : root.IsTree)
    {visit : Visit} :
    visit ∈ visitsBelow plan start root.sorted ↔
      (∃ entry, root.descend? visit.place = some entry ∧ visit.entry = entry.sorted) ∧
        plan.IsOpen start root visit.place := by
  rcases visit with ⟨parents, name, visited⟩
  induction parents generalizing root start with
  | nil =>
      rw [mem_visitsBelow_step tree]
      constructor
      · rintro ⟨other, child, found, admitted, here | ⟨inner, _, below⟩⟩
        · cases here
          exact ⟨⟨child, Entry.descend?_cons.mpr ⟨child, found, rfl⟩, rfl⟩,
            (Plan.isOpen_cons found []).mpr ⟨admitted, Plan.isOpen_nil _ _ _⟩⟩
        · cases below
      · rintro ⟨⟨entry, reached, rfl⟩, isOpen⟩
        rcases Entry.descend?_cons.mp reached with ⟨child, found, same⟩
        cases same
        exact ⟨name, entry, found, ((Plan.isOpen_cons found []).mp isOpen).1, .inl rfl⟩
  | cons first rest induction =>
      rw [mem_visitsBelow_step tree]
      constructor
      · rintro ⟨other, child, found, admitted, here | ⟨inner, below, same⟩⟩
        · cases here
        · rcases inner with ⟨parents, last, entered⟩
          cases same
          rcases (induction (tree.child found)).mp below with ⟨⟨entry, reached, same⟩, isOpen⟩
          exact ⟨⟨entry, Entry.descend?_cons.mpr ⟨child, found, reached⟩, same⟩,
            (Plan.isOpen_cons found _).mpr ⟨admitted, isOpen⟩⟩
      · rintro ⟨⟨entry, reached, same⟩, isOpen⟩
        rcases Entry.descend?_cons.mp reached with ⟨child, found, further⟩
        rcases (Plan.isOpen_cons found _).mp isOpen with ⟨admitted, openBelow⟩
        refine ⟨first, child, found, admitted, .inr ⟨⟨rest, name, visited⟩, ?_, rfl⟩⟩
        exact (induction (tree.child found)).mpr ⟨⟨entry, further, same⟩, openBelow⟩

/-! ## Order -/

theorem cons_lt_place {plan : Plan} {start : List String} {entries : List (String × Entry)}
    {name : String} (before : ∀ pair ∈ entries, name < pair.1) (rest : List String)
    {place : List String} (member : place ∈ (visitsIn plan start entries).map Visit.place) :
    name :: rest < place := by
  rcases List.mem_map.mp member with ⟨visit, visited, rfl⟩
  rcases mem_visitsIn.mp visited with ⟨other, entry, listed, _, rfl | ⟨inner, _, rfl⟩⟩
  · exact List.cons_lt_cons_iff.mpr (.inl (before (other, entry) listed))
  · exact List.cons_lt_cons_iff.mpr (.inl (before (other, entry) listed))

theorem under_increasing {visits : List Visit} (name : String)
    (increasing : (visits.map Visit.place).Pairwise (· < ·)) :
    ((visits.map (Visit.under name)).map Visit.place).Pairwise (· < ·) := by
  rw [List.map_map, List.pairwise_map]
  apply (List.pairwise_map.mp increasing).imp
  intro left right smaller
  exact List.cons_lt_cons_iff.mpr (.inr ⟨rfl, smaller⟩)

theorem singleton_lt_place {visits : List Visit} {name : String} {place : List String}
    (member : place ∈ (visits.map (Visit.under name)).map Visit.place) : [name] < place := by
  rcases List.mem_map.mp member with ⟨visit, visited, rfl⟩
  rcases List.mem_map.mp visited with ⟨inner, _, rfl⟩
  apply List.cons_lt_cons_iff.mpr
  refine .inr ⟨rfl, ?_⟩
  show [] < inner.parents ++ [inner.name]
  cases inner.parents with
  | nil => exact List.nil_lt_cons _ _
  | cons first parents => exact List.nil_lt_cons _ _

/-- The places of the visits increase if the names do and those of the visits below each do. -/
theorem visitsIn_increasing {plan : Plan} {start : List String} {entries : List (String × Entry)}
    (increasing : entries.Pairwise fun left right => left.1 < right.1)
    (below : ∀ name entry, (name, entry) ∈ entries →
      ((visitsBelow plan (start ++ [name]) entry).map Visit.place).Pairwise (· < ·)) :
    ((visitsIn plan start entries).map Visit.place).Pairwise (· < ·) := by
  induction entries with
  | nil => exact List.Pairwise.nil
  | cons head tail induction =>
      rcases head with ⟨name, entry⟩
      rw [List.pairwise_cons] at increasing
      have later := induction increasing.2 fun other inner member =>
        below other inner (List.mem_cons_of_mem _ member)
      have inside := under_increasing name (below name entry List.mem_cons_self)
      rw [visitsIn]
      split
      · rw [List.cons_append, List.map_cons, List.map_append, List.pairwise_cons,
          List.pairwise_append]
        refine ⟨?_, inside, later, ?_⟩
        · intro place member
          rcases List.mem_append.mp member with within | after
          · exact singleton_lt_place within
          · exact cons_lt_place increasing.1 [] after
        · intro left leftMember right rightMember
          rcases List.mem_map.mp leftMember with ⟨visit, visited, rfl⟩
          rcases List.mem_map.mp visited with ⟨inner, _, rfl⟩
          exact cons_lt_place increasing.1 inner.place rightMember
      · exact later

/-- A traversal of a sorted tree comes to places in strictly increasing order. -/
theorem visitsBelow_increasing {root : Entry} (tree : root.IsTree) (plan : Plan)
    (start : List String) :
    ((visitsBelow plan start root.sorted).map Visit.place).Pairwise (· < ·) := by
  induction root using Entry.induction generalizing start with
  | file bytes =>
      rw [Entry.sorted, visitsBelow]
      exact List.Pairwise.nil
  | directory entries induction =>
      rw [visitsBelow_eq]
      apply visitsIn_increasing (Entry.sorted_increasing tree)
      intro name entry member
      rcases Entry.mem_sorted.mp member with ⟨child, original, rfl⟩
      exact induction name child original
        (tree.child ((Entry.child?_eq_some_iff tree).mpr original)) _

end Assembly

end Stencil
