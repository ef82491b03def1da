import Mathlib.Data.List.Sort
import Stencil.Proofs.Assembly.Outcome
import Stencil.Proofs.ClassSource.Passage

/-!
Where the templates of a directory are in its source. The positions that lead to a template follow
from the places of the files and directories that are visited, and the passage there is the one of
the template alone, set further in by the depth of its scope.
-/

namespace Stencil

theorem emitScope_false (scope : Scope) :
    (emitScope scope false).result = .ok (moduleSource scope) := rfl

theorem convertFile_of_ok {tree : FileTree} {path : Path} {minified : Bool}
    {template : TemplateClass}
    (compiled : (compileFile path.name (tree.readText path) minified).result = .ok template) :
    (convertFile tree path minified false).result =
      .ok (moduleSource (.ofTemplate template)) := by
  rw [convertFile, assembleFile, Run.bind_result_of_ok compiled]
  exact emitScope_false (.ofTemplate template)

namespace Assembly

/-! ## Positions -/

/-- The places of the files that come to the scope at a chain of names. -/
def filesAt (files : List (List String)) (chain : List String) : List (List String) :=
  files.filter (chainAbove · = chain)

/-- The names of the scopes in the scope at a chain of names. -/
def stemsAt (directories : List (List String)) (chain : List String) : List String :=
  ((directories.filter (chainAbove · = chain)).map (stemOf ∘ lastName)).eraseDups

/-- The positions of the scopes on the way down from the scope at `above`, where the classes of a
scope come before the scopes in it. -/
def positionsBelow (files directories : List (List String)) (above : List String) :
    List String → List Nat
  | [] => []
  | stem :: later =>
      ((filesAt files above).length + (stemsAt directories above).idxOf stem) ::
        positionsBelow files directories (above ++ [stem]) later

section Mirrored

variable {scope : Scope} {files directories : List (List String)}
  {template : List String → TemplateClass}
  (mirrors : Mirrors scope files directories template)

include mirrors

theorem positions_eq {above chain : List String} {outer inner : Scope}
    (here : scope.at? above = some outer) (reached : outer.at? chain = some inner) :
    outer.positions chain = positionsBelow files directories above chain := by
  induction chain generalizing above outer with
  | nil => rw [Scope.positions, positionsBelow]
  | cons name later induction =>
      rcases Option.bind_eq_some_iff.mp reached with ⟨child, found, further⟩
      have below : scope.at? (above ++ [name]) = some child := by
        rw [Scope.at?_append, here, Option.bind_some, found]
      have same : outer.childOrNew name = child := by
        rw [Scope.childOrNew, found, Option.getD_some]
      have classes : outer.types.length = (filesAt files above).length := by
        rw [mirrors.types above outer here, List.length_map, filesAt]
      rw [Scope.positions, positionsBelow, classes, mirrors.childNames above outer here, same,
        induction below further, stemsAt]

/-- All classes of the tree come from files. -/
theorem exists_file_of_mem_templatesOf {member : TemplateClass}
    (listed : member ∈ templatesOf scope) : ∃ place ∈ files, template place = member := by
  rcases List.mem_flatMap.mp listed with ⟨⟨chain, inner⟩, walked, inside⟩
  have reached := Scope.at?_of_mem_walk mirrors.nodup walked
  have own : member ∈ inner.types := inside
  rw [mirrors.types chain inner reached] at own
  rcases List.mem_map.mp own with ⟨place, kept, equal⟩
  exact ⟨place, List.mem_of_mem_filter kept, equal⟩

/-- The class of a file in the scope of its directory. -/
theorem exists_scope_of_mem_files {place : List String} (listed : place ∈ files)
    (below : chainAbove place = [] ∨ place.dropLast ∈ directories) :
    ∃ inner, scope.at? (chainAbove place) = some inner ∧
      inner.types[(filesAt files (chainAbove place)).idxOf place]? = some (template place) := by
  have present : (scope.at? (chainAbove place)).isSome := by
    rw [mirrors.isSome_iff]
    rcases below with empty | directory
    · exact .inl empty
    · exact .inr ⟨place.dropLast, directory, rfl⟩
  rcases Option.isSome_iff_exists.mp present with ⟨inner, reached⟩
  have member : place ∈ filesAt files (chainAbove place) :=
    List.mem_filter.mpr ⟨listed, decide_eq_true rfl⟩
  have located := List.getElem?_idxOf member
  refine ⟨inner, reached, ?_⟩
  rw [mirrors.types _ inner reached, ← filesAt, List.getElem?_map, located, Option.map_some]

end Mirrored

/-- The directory of a file that is visited is visited, unless it is the root. -/
theorem mem_directories_of_visits {plan : Plan} {root entry : Entry} (tree : root.IsTree)
    {place : List String} (visited : plan.Visits root place entry) :
    chainAbove place = [] ∨ place.dropLast ∈ plan.directories root := by
  rcases visited with ⟨nonempty, reached, isOpen⟩
  by_cases outermost : place.dropLast = []
  · left
    rw [chainAbove, outermost, List.map_nil]
  right
  rw [← List.dropLast_append_getLast nonempty, Entry.descend?_append] at reached
  rcases Option.bind_eq_some_iff.mp reached with ⟨parent, above, last⟩
  rcases Entry.descend?_cons.mp last with ⟨child, inside, _⟩
  cases parent with
  | file bytes => cases inside
  | directory inner =>
      apply (mem_placesOf_directories tree).mpr
      refine ⟨inner, outermost, above, ?_⟩
      intro higher other notRoot before
      exact isOpen higher other notRoot (before.trans (List.dropLast_prefix place))

/-! ## Passages -/

section Assembled

variable {tree : FileTree} {root : Path} {entries : List (String × Entry)} {minified : Bool}
  {exclude : List String} {patterns : Option (List Ignore.Pattern)}
  (compiles : ∀ place bytes,
    Plan.Visits ⟨root, patterns, minified⟩ (.directory entries) place (.file bytes) →
      ∃ template, (compileFile (lastName place) (FileTree.decodeText bytes) minified).result =
        .ok template)

include compiles

theorem compileFile_templateAt {place : List String} {bytes : Utf8.Bytes}
    (visited : Plan.Visits ⟨root, patterns, minified⟩ (.directory entries) place (.file bytes)) :
    (compileFile (lastName place) (FileTree.decodeText bytes) minified).result =
      .ok (templateAt (.directory entries) minified place) := by
  rcases compiles place bytes visited with ⟨template, compiled⟩
  rw [templateAt_of_ok visited.2.1 compiled]
  exact compiled

variable (isTree : (Entry.directory entries).IsTree)

include isTree

theorem hasWordTypes_of_mirrors {scope : Scope}
    (mirrors : Mirrors scope (Plan.files ⟨root, patterns, minified⟩ (.directory entries))
      (Plan.directories ⟨root, patterns, minified⟩ (.directory entries))
      (templateAt (.directory entries) minified)) :
    ∀ template ∈ templatesOf scope, Source.HasWordTypes template := by
  intro template listed
  rcases exists_file_of_mem_templatesOf mirrors listed with ⟨place, member, rfl⟩
  rcases (mem_placesOf_files isTree).mp member with ⟨bytes, visited⟩
  have compiled := compileFile_templateAt compiles visited
  rcases compileFile_eq_ok compiled with ⟨document, _, _, header, _⟩
  exact isWord_of_headerFields header

/-- A template has the same class in the source of a directory as in the source of its file alone.
Wherever a file with these contents and this name is, it converts to one source; the passage of
the class there is the one in the source of the directory, but for four columns of margin for each
scope around it. -/
theorem convertDirectory_passages (found : tree.find root = .ok (.directory entries))
    (read : Ignore.patternsFor tree root { extra := exclude } = .ok patterns) :
    ∃ source files directories,
      (convertDirectory tree root minified false exclude).result = .ok source ∧
      files.Pairwise (· < ·) ∧
      (∀ place, place ∈ files ↔ ∃ bytes,
        Plan.Visits ⟨root, patterns, minified⟩ (.directory entries) place (.file bytes)) ∧
      directories.Pairwise (· < ·) ∧
      (∀ place, place ∈ directories ↔ ∃ inner,
        Plan.Visits ⟨root, patterns, minified⟩ (.directory entries) place (.directory inner)) ∧
      ∀ place bytes,
        Plan.Visits ⟨root, patterns, minified⟩ (.directory entries) place (.file bytes) →
          ∃ alone lines,
            (∀ (other : FileTree) (path : Path), other.find path = .ok (.file bytes) →
              path.name = lastName place →
                (convertFile other path minified false).result = .ok alone) ∧
            Source.passage? alone [] 0 = some lines ∧
            Source.passage? source (positionsBelow files directories [] (chainAbove place))
                ((filesAt files (chainAbove place)).idxOf place) =
              some (lines.map (Source.setIn (4 * (chainAbove place).length))) := by
  rcases exists_assembled found isTree read compiles with ⟨scope, assembled, mirrors⟩
  have words := hasWordTypes_of_mirrors compiles isTree mirrors
  refine ⟨moduleSource scope, Plan.files ⟨root, patterns, minified⟩ (.directory entries),
    Plan.directories ⟨root, patterns, minified⟩ (.directory entries), ?_,
    placesOf_increasing isTree _ _, fun place => mem_placesOf_files isTree,
    placesOf_increasing isTree _ _, fun place => mem_placesOf_directories isTree, ?_⟩
  · rw [convertDirectory, Run.bind_result_of_ok assembled]
    exact emitScope_false scope
  intro place bytes visited
  let template := templateAt (.directory entries) minified place
  have compiled := compileFile_templateAt compiles visited
  have listed := (mem_placesOf_files isTree).mpr ⟨bytes, visited⟩
  rcases exists_scope_of_mem_files mirrors listed (mem_directories_of_visits isTree visited) with
    ⟨inner, reached, located⟩
  have own : template ∈ templatesOf scope :=
    List.mem_flatMap.mpr ⟨_, Scope.mem_walk_of_at? reached, List.mem_of_getElem? located⟩
  refine ⟨moduleSource (.ofTemplate template), Source.classLines template, ?_, ?_, ?_⟩
  · intro other path there named
    have text : other.readText path = FileTree.decodeText bytes := by
      simp [FileTree.readText, FileTree.readBytes, there]
    apply convertFile_of_ok
    rw [named, text]
    exact compiled
  · exact Source.passage?_ofTemplate (words template own)
  · have outermost : scope.at? [] = some scope := rfl
    rw [← positions_eq mirrors outermost reached]
    exact Source.passage?_moduleSource words reached located

end Assembled

/-! ## A tree with versions -/

theorem descend?_directory {name : String} {content : Utf8.Bytes} {place : List String}
    {inner : List (String × Entry)}
    (reached : (Entry.directory [(name, .file content)]).descend? place = some (.directory inner)) :
    place = [] := by
  cases place with
  | nil => rfl
  | cons first rest =>
      rcases Entry.descend?_cons.mp reached with ⟨child, found, further⟩
      rcases Option.map_eq_some_iff.mp found with ⟨pair, located, rfl⟩
      rw [List.mem_singleton.mp (List.mem_of_find?_eq_some located)] at further
      cases rest with
      | nil => cases further
      | cons second later => cases further

theorem versions_directories {place : List String} {inner : List (String × Entry)}
    (visited : versionsPlan.Visits (.directory versions) place (.directory inner)) :
    place = ["v1.1"] ∨ place = ["v1.0"] := by
  rcases visited with ⟨nonempty, reached, _⟩
  cases place with
  | nil => exact absurd rfl nonempty
  | cons name rest =>
      rcases Entry.descend?_cons.mp reached with ⟨child, found, further⟩
      have listed := (Entry.child?_eq_some_iff versions_isTree).mp found
      simp only [versions, Entry.entries, List.mem_cons, List.not_mem_nil, or_false, Prod.mk.injEq]
        at listed
      rcases listed with ⟨rfl, rfl⟩ | ⟨rfl, rfl⟩ | ⟨rfl, rfl⟩
      · exact .inl (by rw [descend?_directory further])
      · cases rest with
        | nil => cases further
        | cons second later => cases further
      · exact .inr (by rw [descend?_directory further])

/-- The second version of a page is the second class of the scope of both. -/
theorem convertDirectory_versions :
    ∃ source alone lines,
      (convertDirectory versionsTree (.ofString "t") true false ["*.txt"]).result = .ok source ∧
      (convertFile versionsTree (.ofString "t/v1.1/b.html") true false).result = .ok alone ∧
      Source.passage? alone [] 0 = some lines ∧
      Source.passage? source [0] 1 = some (lines.map (Source.setIn 4)) := by
  have compiles : ∀ place bytes, versionsPlan.Visits (.directory versions) place (.file bytes) →
      ∃ template, (compileFile (lastName place) (FileTree.decodeText bytes) true).result =
        .ok template := by
    intro place bytes visited
    rcases versions_files visited with ⟨rfl, rfl⟩ | ⟨rfl, rfl⟩
    · exact ⟨⟨"B", [], "y"⟩, by decide +kernel⟩
    · exact ⟨⟨"A", [], "x"⟩, by decide +kernel⟩
  have found : versionsTree.find (.ofString "t") = .ok (.directory versions) := rfl
  have read : Ignore.patternsFor versionsTree (.ofString "t") { extra := ["*.txt"] } =
      .ok versionsPlan.patterns := rfl
  have first := versions_visits "v1.0" "a.html" [120] (by simp [versions]) (by decide)
  have second := versions_visits "v1.1" "b.html" [121] (by simp [versions]) (by decide)
  rcases convertDirectory_passages compiles versions_isTree found read with
    ⟨source, files, directories, converted, filesIncrease, inFiles, directoriesIncrease,
      inDirectories, passages⟩
  have filesEqual : files = [["v1.0", "a.html"], ["v1.1", "b.html"]] := by
    apply List.Pairwise.eq_of_mem_iff filesIncrease (by decide)
    intro place
    rw [inFiles]
    constructor
    · intro holds
      rcases holds with ⟨bytes, visited⟩
      rcases versions_files visited with ⟨equal, _⟩ | ⟨equal, _⟩
      · simp [equal]
      · simp [equal]
    · intro member
      rcases List.mem_pair.mp member with equal | equal
      · exact equal ▸ ⟨_, first.2⟩
      · exact equal ▸ ⟨_, second.2⟩
  have directoriesEqual : directories = [["v1.0"], ["v1.1"]] := by
    apply List.Pairwise.eq_of_mem_iff directoriesIncrease (by decide)
    intro place
    rw [inDirectories]
    constructor
    · intro holds
      rcases holds with ⟨inner, visited⟩
      rcases versions_directories visited with equal | equal
      · simp [equal]
      · simp [equal]
    · intro member
      rcases List.mem_pair.mp member with equal | equal
      · exact equal ▸ ⟨_, first.1⟩
      · exact equal ▸ ⟨_, second.1⟩
  have there : versionsTree.find (.ofString "t/v1.1/b.html") = .ok (.file [121]) := rfl
  rcases passages ["v1.1", "b.html"] [121] second.2 with ⟨alone, lines, single, own, passage⟩
  refine ⟨source, alone, lines, converted, single versionsTree _ there (by decide +kernel), own, ?_⟩
  rw [filesEqual, directoriesEqual] at passage
  exact passage

end Assembly

end Stencil
