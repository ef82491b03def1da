import Stencil.Proofs.Assembly.Scope
import Stencil.Proofs.Assembly.Visit

/-!
An assembled tree of scopes mirrors the tree of its templates: the scopes are the chains of stems
of the directories that are visited, their classes those of the files that are visited, both in
the order of the visits.
-/

namespace Stencil.Assembly

open Scope (Arrival Item Extends)

/-! ## What a visit comes to -/

/-- The name of the scope of a directory. -/
def stemOf (name : String) : String := .ofList (Path.stemOf name.toList)

theorem Plan.name_pathOf (plan : Plan) (place : List String) (name : String) :
    (plan.pathOf (place ++ [name])).name = name := by
  simp [pathOf, Path.name, ← List.append_assoc]

theorem Plan.stem_pathOf (plan : Plan) (place : List String) (name : String) :
    (plan.pathOf (place ++ [name])).stem = stemOf name := by
  rw [Path.stem, name_pathOf, stemOf]

/-- What comes to the scopes with a visit; `template` gives the class of the file at a place. -/
def Visit.arrival (template : List String → TemplateClass) (visit : Visit) : Arrival where
  chain := visit.parents.map stemOf
  item :=
    match visit.entry with
    | .file _ => .template (template visit.place)
    | .directory _ => .child (stemOf visit.name)

/-- The files among the visits compile to the classes that `template` gives for their places. -/
def Compiles (plan : Plan) (template : List String → TemplateClass) (visits : List Visit) : Prop :=
  ∀ visit ∈ visits, ∀ bytes, visit.entry = .file bytes →
    (compileFile visit.name (FileTree.decodeText bytes) plan.minified).result =
      .ok (template visit.place)

/-! ## The traversal -/

theorem addEntry_file {plan : Plan} {place : List String} {name : String} {bytes : Utf8.Bytes}
    {template : TemplateClass} (scope : Scope)
    (compiled : (compileFile name (FileTree.decodeText bytes) plan.minified).result =
      .ok template) :
    (addEntry plan (place ++ [name]) scope (.file bytes)).result = .ok (scope.add template) := by
  simp only [addEntry, Plan.name_pathOf]
  rw [Run.bind_of_ok compiled]
  rfl

theorem addEntry_directory {plan : Plan} {place : List String} {name : String}
    {entries : List (String × Entry)} {scope child : Scope}
    (added : (addEntries plan (place ++ [name]) (scope.childOrNew (stemOf name)) entries).result =
      .ok child) :
    (addEntry plan (place ++ [name]) scope (.directory entries)).result =
      .ok (scope.enter (stemOf name) child) := by
  simp only [addEntry, Plan.stem_pathOf, Scope.child?_withChild, if_true, Option.getD_some]
  rw [Run.bind_of_ok rfl, Run.bind_of_ok added]
  rfl

theorem addEntries_skipped {plan : Plan} {place : List String} {name : String} {entry : Entry}
    (leftOut : ¬ plan.admits (place ++ [name]) entry) (scope : Scope)
    (later : List (String × Entry)) :
    (addEntries plan place scope ((name, entry) :: later)).result =
      (addEntries plan place scope later).result := by
  rw [addEntries]
  split
  · rfl
  · rename_i other
    have excluded : plan.excludes (place ++ [name]) entry := by
      simpa [Plan.admits, other] using leftOut
    rw [if_pos excluded, Run.bind_of_ok rfl]

theorem addEntries_admitted {plan : Plan} {place : List String} {name : String} {entry : Entry}
    {scope middle : Scope} (admitted : plan.admits (place ++ [name]) entry)
    (added : (addEntry plan (place ++ [name]) scope entry).result = .ok middle)
    (later : List (String × Entry)) :
    (addEntries plan place scope ((name, entry) :: later)).result =
      (addEntries plan place middle later).result := by
  simp only [Plan.admits, Bool.and_eq_true, Bool.not_eq_true'] at admitted
  rw [addEntries]
  simp only [admitted.1, admitted.2, Bool.false_eq_true, if_false]
  rw [Run.bind_of_ok added]

/-- A traversal of the entries of the directory at `place` succeeds if the files on its way
compile, and extends any scope with what its visits come to. -/
def Succeeds (plan : Plan) (place : List String) (entries : List (String × Entry)) : Prop :=
  ∀ template scope, Compiles plan template (visitsIn plan place entries) →
    ∃ after, (addEntries plan place scope entries).result = .ok after ∧
      Extends scope after ((visitsIn plan place entries).map (Visit.arrival template))

namespace Succeeds

variable {plan : Plan} {place : List String} {name : String} {tail : List (String × Entry)}

theorem skipped {entry : Entry} (leftOut : ¬ plan.admits (place ++ [name]) entry)
    (later : Succeeds plan place tail) : Succeeds plan place ((name, entry) :: tail) := by
  intro template scope compiles
  rw [visitsIn, if_neg leftOut] at compiles ⊢
  rw [addEntries_skipped leftOut]
  exact later template scope compiles

theorem file {bytes : Utf8.Bytes} (admitted : plan.admits (place ++ [name]) (.file bytes))
    (later : Succeeds plan place tail) : Succeeds plan place ((name, .file bytes) :: tail) := by
  intro template scope compiles
  rw [visitsIn, if_pos admitted] at compiles ⊢
  have compiled := compiles ⟨[], name, .file bytes⟩ List.mem_cons_self bytes rfl
  rcases later template (scope.add (template [name]))
    (fun visit member => compiles visit (by simp [member])) with ⟨after, added, extended⟩
  refine ⟨after, ?_, ?_⟩
  · rw [addEntries_admitted admitted (addEntry_file scope compiled)]
    exact added
  · exact (Extends.add scope (template [name])).trans extended

/-- A directory leads into the child of its stem, which may have come from another directory. -/
theorem directory {inner : List (String × Entry)}
    (admitted : plan.admits (place ++ [name]) (.directory inner))
    (below : Succeeds plan (place ++ [name]) inner) (later : Succeeds plan place tail) :
    Succeeds plan place ((name, .directory inner) :: tail) := by
  intro template scope compiles
  rw [visitsIn, if_pos admitted, List.cons_append] at compiles ⊢
  have compilesBelow : Compiles plan (fun rest => template (name :: rest))
      (visitsIn plan (place ++ [name]) inner) := by
    intro visit member
    apply compiles (visit.under name)
    simp [visitsBelow, List.mem_map_of_mem member]
  rcases below _ (scope.childOrNew (stemOf name)) compilesBelow with ⟨child, entered, inside⟩
  rcases later template (scope.enter (stemOf name) child)
    (fun visit member => compiles visit (by simp [member])) with ⟨after, added, extended⟩
  refine ⟨after, ?_, ?_⟩
  · rw [addEntries_admitted admitted (addEntry_directory entered)]
    exact added
  · have step := Extends.enter inside
    rw [List.map_map] at step
    rw [List.map_cons, List.map_append, List.map_map, visitsBelow]
    exact step.trans extended

theorem of_below {entries : List (String × Entry)}
    (below : ∀ name inner, (name, Entry.directory inner) ∈ entries →
      Succeeds plan (place ++ [name]) inner) :
    Succeeds plan place entries := by
  induction entries with
  | nil =>
      intro template scope _
      exact ⟨scope, rfl, Extends.refl scope⟩
  | cons head tail induction =>
      rcases head with ⟨name, entry⟩
      have later := induction fun other inner member =>
        below other inner (List.mem_cons_of_mem _ member)
      by_cases admitted : plan.admits (place ++ [name]) entry
      · cases entry with
        | file bytes => exact file admitted later
        | directory inner => exact directory admitted (below name inner List.mem_cons_self) later
      · exact skipped admitted later

end Succeeds

theorem succeeds (entry : Entry) (plan : Plan) (place : List String) :
    Succeeds plan place entry.entries := by
  induction entry using Entry.induction generalizing place with
  | file bytes => exact Succeeds.of_below fun _ _ member => nomatch member
  | directory entries induction =>
      exact Succeeds.of_below fun name inner member => induction name _ member _

/-! ## What is visited -/

/-- A traversal of `root` comes to the entry at `place`, which is not the root: neither it nor a
directory on the way to it is left out. -/
def Plan.Visits (plan : Plan) (root : Entry) (place : List String) (entry : Entry) : Prop :=
  place ≠ [] ∧ root.descend? place = some entry ∧ plan.IsOpen [] root place

def placesOf (accepts : Entry → Bool) (visits : List Visit) : List (List String) :=
  (visits.filter (accepts ·.entry)).map Visit.place

theorem placesOf_cons (accepts : Entry → Bool) (head : Visit) (tail : List Visit) :
    placesOf accepts (head :: tail) =
      if accepts head.entry then head.place :: placesOf accepts tail
      else placesOf accepts tail := by
  rw [placesOf, List.filter_cons]
  split <;> rfl

theorem mem_placesOf {plan : Plan} {root : Entry} (tree : root.IsTree) (accepts : Entry → Bool)
    (kept : ∀ entry, accepts entry.sorted = accepts entry) {place : List String} :
    place ∈ placesOf accepts (visitsBelow plan [] root.sorted) ↔
      ∃ entry, accepts entry ∧ plan.Visits root place entry := by
  simp only [placesOf, List.mem_map, List.mem_filter]
  constructor
  · rintro ⟨visit, ⟨visited, accepted⟩, rfl⟩
    rcases (mem_visitsBelow tree).mp visited with ⟨⟨entry, reached, same⟩, isOpen⟩
    rw [same, kept] at accepted
    exact ⟨entry, accepted, by simp [Visit.place], reached, isOpen⟩
  · rintro ⟨entry, accepted, nonempty, reached, isOpen⟩
    have split := List.dropLast_append_getLast nonempty
    refine ⟨⟨place.dropLast, place.getLast nonempty, entry.sorted⟩, ⟨?_, ?_⟩, split⟩
    · apply (mem_visitsBelow tree).mpr
      rw [Visit.place, split]
      exact ⟨⟨entry, reached, rfl⟩, isOpen⟩
    · rwa [kept]

theorem mem_placesOf_files {plan : Plan} {root : Entry} (tree : root.IsTree)
    {place : List String} :
    place ∈ placesOf (!·.isDirectory) (visitsBelow plan [] root.sorted) ↔
      ∃ bytes, plan.Visits root place (.file bytes) := by
  rw [mem_placesOf tree _ fun entry => by rw [Entry.isDirectory_sorted]]
  constructor
  · rintro ⟨entry, isFile, visited⟩
    rcases Entry.not_isDirectory_iff.mp isFile with ⟨bytes, rfl⟩
    exact ⟨bytes, visited⟩
  · rintro ⟨bytes, visited⟩
    exact ⟨.file bytes, rfl, visited⟩

theorem mem_placesOf_directories {plan : Plan} {root : Entry} (tree : root.IsTree)
    {place : List String} :
    place ∈ placesOf (·.isDirectory) (visitsBelow plan [] root.sorted) ↔
      ∃ inner, plan.Visits root place (.directory inner) := by
  rw [mem_placesOf tree _ fun entry => Entry.isDirectory_sorted entry]
  constructor
  · rintro ⟨entry, isDirectory, visited⟩
    rcases Entry.isDirectory_iff.mp isDirectory with ⟨inner, rfl⟩
    exact ⟨inner, visited⟩
  · rintro ⟨inner, visited⟩
    exact ⟨.directory inner, rfl, visited⟩

theorem ne_nil_of_mem_placesOf {accepts : Entry → Bool} {visits : List Visit}
    {place : List String} (member : place ∈ placesOf accepts visits) : place ≠ [] := by
  rcases List.mem_map.mp member with ⟨visit, _, rfl⟩
  simp [Visit.place]

theorem placesOf_increasing {root : Entry} (tree : root.IsTree) (plan : Plan)
    (accepts : Entry → Bool) :
    (placesOf accepts (visitsBelow plan [] root.sorted)).Pairwise (· < ·) :=
  ((visitsBelow_increasing tree plan []).sublist (List.filter_sublist.map _))

/-- The chain of scope names of the directory that holds the entry at `place`. -/
def chainAbove (place : List String) : List String := place.dropLast.map stemOf

theorem chainAbove_place (visit : Visit) : chainAbove visit.place = visit.parents.map stemOf := by
  simp [chainAbove, Visit.place]

/-- The name of the entry at `place`, which is not the root. -/
def lastName (place : List String) : String := place.getLast?.getD ""

theorem lastName_place (visit : Visit) : lastName visit.place = visit.name := by
  simp [lastName, Visit.place]

theorem templates_eq (template : List String → TemplateClass) (chain : List String)
    (visits : List Visit) :
    (Scope.itemsAt chain (visits.map (Visit.arrival template))).filterMap Item.template? =
      ((placesOf (!·.isDirectory) visits).filter (chainAbove · = chain)).map template := by
  induction visits with
  | nil => rfl
  | cons head tail induction =>
      have above := chainAbove_place head
      rcases head with ⟨parents, name, bytes | entries⟩ <;>
        by_cases here : parents.map stemOf = chain <;>
          simp [Visit.arrival, Scope.itemsAt_cons, placesOf_cons, List.filterMap_cons, above, here,
            induction]

theorem childNames_eq (template : List String → TemplateClass) (chain : List String)
    (visits : List Visit) :
    (Scope.itemsAt chain (visits.map (Visit.arrival template))).filterMap Item.child? =
      ((placesOf (·.isDirectory) visits).filter (chainAbove · = chain)).map
        (stemOf ∘ lastName) := by
  induction visits with
  | nil => rfl
  | cons head tail induction =>
      have above := chainAbove_place head
      have last := lastName_place head
      rcases head with ⟨parents, name, bytes | entries⟩ <;>
        by_cases here : parents.map stemOf = chain <;>
          simp [Visit.arrival, Scope.itemsAt_cons, placesOf_cons, List.filterMap_cons, above, here,
            last, induction]

theorem countP_isTemplate (template : List String → TemplateClass) (visits : List Visit) :
    (visits.map (Visit.arrival template)).countP (·.isTemplate) =
      (placesOf (!·.isDirectory) visits).length := by
  induction visits with
  | nil => rfl
  | cons head tail induction =>
      rw [List.map_cons, List.countP_cons, placesOf_cons, induction]
      rcases head with ⟨parents, name, bytes | entries⟩ <;>
        simp [Visit.arrival, Arrival.isTemplate]

theorem map_stemOf_eq_iff {place chain : List String} {name : String} :
    place.map stemOf = chain ++ [name] ↔
      place ≠ [] ∧ chainAbove place = chain ∧ stemOf (lastName place) = name := by
  rcases List.eq_nil_or_concat place with rfl | ⟨parents, last, rfl⟩
  · simp
  · rw [List.concat_eq_append]
    simp [chainAbove, lastName]

/-! ## The whole tree -/

/-- The scopes mirror visits to files and directories at these places: there is a scope for each
chain of stems of a directory, with the classes of the files in all directories of that chain and
with one child for each stem of a directory in them, all in the order of the places. -/
structure Mirrors (scope : Scope) (files directories : List (List String))
    (template : List String → TemplateClass) : Prop where
  isSome_iff : ∀ chain, (scope.at? chain).isSome ↔
    chain = [] ∨ ∃ place ∈ directories, place.map stemOf = chain
  name : ∀ chain inner, scope.at? chain = some inner → inner.name = chain.getLast?
  types : ∀ chain inner, scope.at? chain = some inner →
    inner.types = (files.filter (chainAbove · = chain)).map template
  childNames : ∀ chain inner, scope.at? chain = some inner →
    inner.childNames =
      ((directories.filter (chainAbove · = chain)).map (stemOf ∘ lastName)).eraseDups
  nodup : ∀ chain inner, scope.at? chain = some inner → inner.childNames.Nodup
  typeCount : scope.typeCount = files.length

/-- A chain leads to a scope if it is that of a directory. -/
theorem at?_isSome_iff_directory {scope : Scope} {directories : List (List String)}
    (nonempty : ∀ place ∈ directories, place ≠ [])
    (childNames : ∀ chain, scope.childNamesAt chain =
      ((directories.filter (chainAbove · = chain)).map (stemOf ∘ lastName)).eraseDups)
    (chain : List String) :
    (scope.at? chain).isSome ↔ chain = [] ∨ ∃ place ∈ directories, place.map stemOf = chain := by
  rcases List.eq_nil_or_concat chain with rfl | ⟨above, name, rfl⟩
  · simp [Scope.at?]
  rw [List.concat_eq_append, Scope.at?_isSome_iff, childNames, List.mem_eraseDups, List.mem_map]
  constructor
  · rintro ⟨place, member, named⟩
    rcases List.mem_filter.mp member with ⟨listed, here⟩
    right
    exact ⟨place, listed,
      map_stemOf_eq_iff.mpr ⟨nonempty place listed, by simpa using here, named⟩⟩
  · rintro (empty | ⟨place, listed, equal⟩)
    · simp at empty
    · rcases map_stemOf_eq_iff.mp equal with ⟨_, here, named⟩
      exact ⟨place, List.mem_filter.mpr ⟨listed, by simpa using here⟩, named⟩

theorem mirrors_of_extends {scope : Scope} {template : List String → TemplateClass}
    {visits : List Visit} (extended : Extends {} scope (visits.map (Visit.arrival template))) :
    Mirrors scope (placesOf (!·.isDirectory) visits) (placesOf (·.isDirectory) visits)
      template := by
  have childNames (chain : List String) : scope.childNamesAt chain =
      (((placesOf (·.isDirectory) visits).filter (chainAbove · = chain)).map
        (stemOf ∘ lastName)).eraseDups := by
    rw [extended.childNamesAt, Scope.childNamesAt_new, insertNames_nil, childNames_eq]
  constructor
  case isSome_iff =>
    exact at?_isSome_iff_directory (fun _ => ne_nil_of_mem_placesOf) childNames
  case name =>
    intro chain inner found
    exact Extends.name_of_at? extended found
  case types =>
    intro chain inner found
    rw [Extends.types_of_at? extended found, templates_eq]
  case childNames =>
    intro chain inner found
    rw [Extends.childNames_of_at? extended found, childNames_eq]
  case nodup =>
    intro chain inner found
    exact Extends.nodup_of_at? extended found
  case typeCount =>
    rw [extended.typeCount (Scope.isDistinct_new none), countP_isTemplate]
    exact Nat.zero_add _

/-- Assembly mirrors the tree. If every template that is visited compiles, the result is a tree
of scopes with each visited file and each stem of visited directories in its place, in the order
of the names, and with nothing else. -/
theorem assemble_mirrors {tree : FileTree} {root : Path} {entries : List (String × Entry)}
    {minified : Bool} {exclude : List String} {patterns : Option (List Ignore.Pattern)}
    {template : List String → TemplateClass} (found : tree.find root = .ok (.directory entries))
    (isTree : (Entry.directory entries).IsTree)
    (read : Ignore.patternsFor tree root { extra := exclude } = .ok patterns)
    (compiles : ∀ place bytes,
      Plan.Visits ⟨root, patterns, minified⟩ (.directory entries) place (.file bytes) →
        (compileFile (lastName place) (FileTree.decodeText bytes) minified).result =
          .ok (template place)) :
    ∃ scope files directories,
      (assemble tree root minified exclude).result = .ok scope ∧
      files.Pairwise (· < ·) ∧
      (∀ place, place ∈ files ↔ ∃ bytes,
        Plan.Visits ⟨root, patterns, minified⟩ (.directory entries) place (.file bytes)) ∧
      directories.Pairwise (· < ·) ∧
      (∀ place, place ∈ directories ↔ ∃ inner,
        Plan.Visits ⟨root, patterns, minified⟩ (.directory entries) place (.directory inner)) ∧
      Mirrors scope files directories template := by
  let plan : Plan := ⟨root, patterns, minified⟩
  let visits := visitsBelow plan [] (Entry.directory entries).sorted
  have compilesVisits : Compiles plan template visits := by
    intro visit member bytes isFile
    rcases (mem_visitsBelow isTree).mp member with ⟨⟨entry, reached, same⟩, isOpen⟩
    rw [isFile] at same
    rw [← lastName_place visit]
    apply compiles
    rw [Entry.eq_file_of_sorted same.symm] at reached
    exact ⟨by simp [Visit.place], reached, isOpen⟩
  have succeeded := succeeds (Entry.directory entries).sorted plan []
  rw [Succeeds, ← visitsBelow_eq] at succeeded
  rcases succeeded template {} compilesVisits with ⟨scope, added, extended⟩
  refine ⟨scope, placesOf (!·.isDirectory) visits, placesOf (·.isDirectory) visits, ?_,
    placesOf_increasing isTree plan _, ?_, placesOf_increasing isTree plan _, ?_,
    mirrors_of_extends extended⟩
  · simp only [assemble, found, read]
    rw [Run.bind_of_ok rfl, Run.bind_of_ok added, Run.bind_of_ok rfl]
    rfl
  · intro place
    exact mem_placesOf_files isTree
  · intro place
    exact mem_placesOf_directories isTree

/-! ## A tree with versions -/

/-- Two directories of one stem, and a draft. -/
def versions : List (String × Entry) :=
  [("v1.1", .directory [("b.html", .file [121])]), ("draft.txt", .file [122]),
    ("v1.0", .directory [("a.html", .file [120])])]

def versionsTree : FileTree := ⟨.directory [("t", .directory versions)], []⟩

def versionsTemplate (place : List String) : TemplateClass :=
  if place = ["v1.0", "a.html"] then ⟨"A", [], "x"⟩ else ⟨"B", [], "y"⟩

theorem versions_isTree : (Entry.directory versions).IsTree := by
  apply Entry.isTree_directory (by decide)
  intro name entry member
  simp only [versions, List.mem_cons, List.not_mem_nil, or_false, Prod.mk.injEq] at member
  rcases member with ⟨_, rfl⟩ | ⟨_, rfl⟩ | ⟨_, rfl⟩
  · exact Entry.isTree_directory (by decide) (by simp [Entry.isTree_file])
  · exact Entry.isTree_file _
  · exact Entry.isTree_directory (by decide) (by simp [Entry.isTree_file])

/-- What a traversal of the versions holds if texts are left out. -/
def versionsPlan : Plan where
  root := .ofString "t"
  patterns := some [⟨true, .tokens [.directories, .many, .literal '.', .literal 't', .literal 'x',
    .literal 't', .nameEnd]⟩]
  minified := true

theorem versions_visits (name file : String) (bytes : Utf8.Bytes)
    (listed : (name, Entry.directory [(file, .file bytes)]) ∈ versions)
    (admitted : versionsPlan.admits [name] (.directory [(file, .file bytes)]) ∧
      versionsPlan.admits [name, file] (.file bytes)) :
    versionsPlan.Visits (.directory versions) [name] (.directory [(file, .file bytes)]) ∧
      versionsPlan.Visits (.directory versions) [name, file] (.file bytes) := by
  have found := (Entry.child?_eq_some_iff versions_isTree).mpr listed
  have foundFile : (Entry.directory [(file, Entry.file bytes)]).child? file =
      some (.file bytes) := by simp [Entry.child?, Entry.entries]
  refine ⟨⟨List.cons_ne_nil _ _, ?_, ?_⟩, ⟨List.cons_ne_nil _ _, ?_, ?_⟩⟩
  · exact Entry.descend?_cons.mpr ⟨_, found, rfl⟩
  · exact (Plan.isOpen_cons found []).mpr ⟨admitted.1, Plan.isOpen_nil _ _ _⟩
  · exact Entry.descend?_cons.mpr ⟨_, found, Entry.descend?_cons.mpr ⟨_, foundFile, rfl⟩⟩
  · exact (Plan.isOpen_cons found _).mpr ⟨admitted.1,
      (Plan.isOpen_cons foundFile []).mpr ⟨admitted.2, Plan.isOpen_nil _ _ _⟩⟩

theorem descend?_single {name : String} {content bytes : Utf8.Bytes} {place : List String}
    (reached : (Entry.directory [(name, .file content)]).descend? place = some (.file bytes)) :
    place = [name] ∧ bytes = content := by
  cases place with
  | nil => cases reached
  | cons first rest =>
      rcases Entry.descend?_cons.mp reached with ⟨child, found, further⟩
      by_cases equal : name = first
      · simp only [Entry.child?, Entry.entries, equal, List.find?_cons, BEq.rfl, Option.map_some,
          Option.some.injEq] at found
        subst found
        cases rest with
        | nil =>
            cases further
            exact ⟨by rw [equal], rfl⟩
        | cons second later => cases further
      · simp [Entry.child?, Entry.entries, equal] at found

theorem versions_files {place : List String} {bytes : Utf8.Bytes}
    (visited : versionsPlan.Visits (.directory versions) place (.file bytes)) :
    (place = ["v1.1", "b.html"] ∧ bytes = [121]) ∨ (place = ["v1.0", "a.html"] ∧ bytes = [120]) := by
  rcases visited with ⟨nonempty, reached, isOpen⟩
  cases place with
  | nil => exact absurd rfl nonempty
  | cons name rest =>
      rcases Entry.descend?_cons.mp reached with ⟨child, found, further⟩
      have admitted := ((Plan.isOpen_cons found rest).mp isOpen).1
      have listed := (Entry.child?_eq_some_iff versions_isTree).mp found
      simp only [versions, Entry.entries, List.mem_cons, List.not_mem_nil, or_false, Prod.mk.injEq]
        at listed
      rcases listed with ⟨rfl, rfl⟩ | ⟨rfl, rfl⟩ | ⟨rfl, rfl⟩
      · rcases descend?_single further with ⟨rfl, rfl⟩
        exact .inl ⟨rfl, rfl⟩
      · exact absurd admitted (by decide)
      · rcases descend?_single further with ⟨rfl, rfl⟩
        exact .inr ⟨rfl, rfl⟩

/-- The two directories come to one scope. -/
theorem assemble_versions :
    ∃ scope files directories,
      (assemble versionsTree (.ofString "t") true ["*.txt"]).result = .ok scope ∧
      (["v1.0", "a.html"] ∈ files ∧ ["v1.1", "b.html"] ∈ files ∧ ["draft.txt"] ∉ files) ∧
      (["v1.0"] ∈ directories ∧ ["v1.1"] ∈ directories) ∧
      (scope.at? ["v1"]).isSome ∧
      Mirrors scope files directories versionsTemplate := by
  have compiles : ∀ place bytes,
      versionsPlan.Visits (.directory versions) place (.file bytes) →
        (compileFile (lastName place) (FileTree.decodeText bytes) true).result =
          .ok (versionsTemplate place) := by
    intro place bytes visited
    rcases versions_files visited with ⟨rfl, rfl⟩ | ⟨rfl, rfl⟩
    · decide +kernel
    · decide +kernel
  have first := versions_visits "v1.0" "a.html" [120] (by simp [versions]) (by decide)
  have second := versions_visits "v1.1" "b.html" [121] (by simp [versions]) (by decide)
  have found : versionsTree.find (.ofString "t") = .ok (.directory versions) := rfl
  have read : Ignore.patternsFor versionsTree (.ofString "t") { extra := ["*.txt"] } =
      .ok versionsPlan.patterns := rfl
  rcases assemble_mirrors found versions_isTree read compiles with
    ⟨scope, files, directories, assembled, _, inFiles, _, inDirectories, mirrors⟩
  refine ⟨scope, files, directories, assembled, ⟨?_, ?_, ?_⟩, ⟨?_, ?_⟩, ?_, mirrors⟩
  · exact (inFiles _).mpr ⟨_, first.2⟩
  · exact (inFiles _).mpr ⟨_, second.2⟩
  · intro member
    rcases (inFiles _).mp member with ⟨bytes, visited⟩
    rcases versions_files visited with ⟨same, _⟩ | ⟨same, _⟩
    · simp at same
    · simp at same
  · exact (inDirectories _).mpr ⟨_, first.1⟩
  · exact (inDirectories _).mpr ⟨_, second.1⟩
  · apply (mirrors.isSome_iff ["v1"]).mpr
    exact .inr ⟨["v1.0"], (inDirectories _).mpr ⟨_, first.1⟩, by decide⟩

/-! ## A directory in the place of the ignore file -/

def ignoreDirectory : List (String × Entry) :=
  [(".typedhtmlignore", .directory [("a.html", .file [120])])]

def ignoreDirectoryTree : FileTree := ⟨.directory [("t", .directory ignoreDirectory)], []⟩

/-- A directory in the place of the ignore file of the root is left out with what is in it, though
a template there is not the ignore file, and no pattern leaves it out. -/
theorem assemble_ignoreDirectory :
    Ignore.patternsFor ignoreDirectoryTree (.ofString "t") {} = .ok none ∧
      (Entry.directory ignoreDirectory).descend? [".typedhtmlignore", "a.html"] =
        some (.file [120]) ∧
      [".typedhtmlignore", "a.html"] ≠ [Ignore.fileName] ∧
      (compileFile "a.html" (FileTree.decodeText [120]) true).result = .ok ⟨"A", [], "x"⟩ ∧
      (assemble ignoreDirectoryTree (.ofString "t") true []).result = .ok {} ∧
      Scope.typeCount {} = 0 := by
  refine ⟨rfl, rfl, by decide, by decide +kernel, ?_, rfl⟩
  have found : ignoreDirectoryTree.find (.ofString "t") = .ok (.directory ignoreDirectory) := rfl
  have read : Ignore.patternsFor ignoreDirectoryTree (.ofString "t") { extra := [] } =
      .ok none := rfl
  have sorted : (Entry.directory ignoreDirectory).sorted.entries = ignoreDirectory := by
    simp [ignoreDirectory, Entry.sorted, Entry.sortedEntries, Entry.entries]
  simp only [assemble, found, read, sorted]
  rfl

end Stencil.Assembly
