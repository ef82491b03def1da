import Stencil.Proofs.Assembly.Mirror
import Stencil.Proofs.Conversion

/-!
When a directory assembles. A traversal ends well if and only if the files that it comes to
compile, and the tree of scopes then holds what they compile to.
-/

namespace Stencil

/-- What a file that compiles went through. -/
theorem compileFile_eq_ok {name : String} {text : Except ReadError String} {minified : Bool}
    {template : TemplateClass} (ok : (compileFile name text minified).result = .ok template) :
    ∃ document, text = .ok document ∧ className name = .ok template.name ∧
      headerFields document = .ok template.fields ∧
      template.body = substitute (documentBody document minified) := by
  rw [compileFile] at ok
  rcases Run.bind_result_eq_ok ok with ⟨own, named, rest⟩
  rcases Run.bind_result_eq_ok rest with ⟨document, read, compiled⟩
  rcases compileTemplate_eq_ok (Run.mapError_result_eq_ok compiled) with ⟨header, same, body⟩
  refine ⟨document, Run.ofExcept_mapError_eq_ok read, ?_, header, body⟩
  rw [same]
  exact Run.ofExcept_mapError_eq_ok named

namespace Assembly

/-! ## Traversals of a whole tree -/

/-- The places of the files that a traversal comes to. -/
def Plan.files (plan : Plan) (root : Entry) : List (List String) :=
  placesOf (!·.isDirectory) (visitsBelow plan [] root.sorted)

/-- The places of the directories that a traversal comes to. -/
def Plan.directories (plan : Plan) (root : Entry) : List (List String) :=
  placesOf (·.isDirectory) (visitsBelow plan [] root.sorted)

/-- The class of the file at a place. -/
def templateAt (root : Entry) (minified : Bool) (place : List String) : TemplateClass :=
  match root.descend? place with
  | some (.file bytes) =>
      ((compileFile (lastName place) (FileTree.decodeText bytes) minified).result.toOption).getD
        default
  | _ => default

theorem templateAt_of_ok {root : Entry} {minified : Bool} {place : List String}
    {bytes : Utf8.Bytes} {template : TemplateClass}
    (reached : root.descend? place = some (.file bytes))
    (ok : (compileFile (lastName place) (FileTree.decodeText bytes) minified).result =
      .ok template) : templateAt root minified place = template := by
  simp [templateAt, reached, ok, Except.toOption]

/-- A traversal of the entries of the directory at `place` succeeds only if the files on its way
compile. -/
def Demands (plan : Plan) (place : List String) (entries : List (String × Entry)) : Prop :=
  ∀ scope after, (addEntries plan place scope entries).result = .ok after →
    ∀ visit ∈ visitsIn plan place entries, ∀ bytes, visit.entry = .file bytes →
      ∃ template, (compileFile visit.name (FileTree.decodeText bytes) plan.minified).result =
        .ok template

theorem addEntries_admitted_eq_ok {plan : Plan} {place : List String} {name : String}
    {entry : Entry} {scope after : Scope} {later : List (String × Entry)}
    (admitted : plan.admits (place ++ [name]) entry)
    (ok : (addEntries plan place scope ((name, entry) :: later)).result = .ok after) :
    ∃ middle, (addEntry plan (place ++ [name]) scope entry).result = .ok middle ∧
      (addEntries plan place middle later).result = .ok after := by
  simp only [Plan.admits, Bool.and_eq_true, Bool.not_eq_true'] at admitted
  rw [addEntries] at ok
  simp only [admitted.1, admitted.2, Bool.false_eq_true, if_false] at ok
  exact Run.bind_result_eq_ok ok

namespace Demands

variable {plan : Plan} {place : List String} {name : String} {tail : List (String × Entry)}

theorem file {bytes : Utf8.Bytes} (admitted : plan.admits (place ++ [name]) (.file bytes))
    (later : Demands plan place tail) : Demands plan place ((name, .file bytes) :: tail) := by
  intro scope after ok visit member content isFile
  rcases addEntries_admitted_eq_ok admitted ok with ⟨middle, added, others⟩
  rw [visitsIn, if_pos admitted, visitsBelow, List.map_nil] at member
  rcases List.mem_cons.mp member with equal | member
  · rw [addEntry] at added
    rcases Run.bind_result_eq_ok added with ⟨template, compiled, _⟩
    rw [Plan.name_pathOf] at compiled
    rw [equal] at isFile ⊢
    cases isFile
    exact ⟨template, compiled⟩
  · exact later middle after others visit member content isFile

theorem directory {inner : List (String × Entry)}
    (admitted : plan.admits (place ++ [name]) (.directory inner))
    (below : Demands plan (place ++ [name]) inner) (later : Demands plan place tail) :
    Demands plan place ((name, .directory inner) :: tail) := by
  intro scope after ok visit member content isFile
  rcases addEntries_admitted_eq_ok admitted ok with ⟨middle, added, others⟩
  rw [visitsIn, if_pos admitted, visitsBelow, List.cons_append] at member
  rcases List.mem_cons.mp member with equal | member
  · rw [equal] at isFile
    cases isFile
  rcases List.mem_append.mp member with inside | behind
  · rcases List.mem_map.mp inside with ⟨visitBelow, listed, rfl⟩
    rw [addEntry] at added
    rcases Run.bind_result_eq_ok added with ⟨_, _, entered⟩
    rcases Run.bind_result_eq_ok entered with ⟨child, addedBelow, _⟩
    exact below _ child addedBelow visitBelow listed content isFile
  · exact later middle after others visit behind content isFile

theorem of_below {entries : List (String × Entry)}
    (below : ∀ name inner, (name, Entry.directory inner) ∈ entries →
      Demands plan (place ++ [name]) inner) :
    Demands plan place entries := by
  induction entries with
  | nil =>
      intro scope after _ visit member
      cases member
  | cons head tail induction =>
      rcases head with ⟨name, entry⟩
      have later := induction fun other inner member =>
        below other inner (List.mem_cons_of_mem _ member)
      by_cases admitted : plan.admits (place ++ [name]) entry
      · cases entry with
        | file bytes => exact file admitted later
        | directory inner => exact directory admitted (below name inner List.mem_cons_self) later
      · intro scope after ok
        rw [addEntries_skipped admitted] at ok
        rw [visitsIn, if_neg admitted]
        exact later scope after ok

end Demands

theorem demands (entry : Entry) (plan : Plan) (place : List String) :
    Demands plan place entry.entries := by
  induction entry using Entry.induction generalizing place with
  | file bytes => exact Demands.of_below fun _ _ member => nomatch member
  | directory entries induction =>
      exact Demands.of_below fun name inner member => induction name _ member _

section Assembled

variable {tree : FileTree} {root : Path} {entries : List (String × Entry)} {minified : Bool}
  {exclude : List String} {patterns : Option (List Ignore.Pattern)}
  (found : tree.find root = .ok (.directory entries))
  (isTree : (Entry.directory entries).IsTree)
  (read : Ignore.patternsFor tree root { extra := exclude } = .ok patterns)

include found read

theorem assemble_result :
    (assemble tree root minified exclude).result =
      (addEntries ⟨root, patterns, minified⟩ [] {}
        (Entry.directory entries).sorted.entries).result := by
  simp only [assemble, found, read]
  rw [Run.bind_of_ok rfl]
  cases added : (addEntries ⟨root, patterns, minified⟩ [] {}
    (Entry.directory entries).sorted.entries).result with
  | error error => rw [Run.bind_of_error added]
  | ok scope =>
      rw [Run.bind_of_ok added, Run.bind_of_ok rfl]
      rfl

include isTree

/-- Assembly succeeds if the files that are visited compile. -/
theorem exists_assembled
    (compiles : ∀ place bytes,
      Plan.Visits ⟨root, patterns, minified⟩ (.directory entries) place (.file bytes) →
        ∃ template, (compileFile (lastName place) (FileTree.decodeText bytes) minified).result =
          .ok template) :
    ∃ scope, (assemble tree root minified exclude).result = .ok scope ∧
      Mirrors scope (Plan.files ⟨root, patterns, minified⟩ (.directory entries))
        (Plan.directories ⟨root, patterns, minified⟩ (.directory entries))
        (templateAt (.directory entries) minified) := by
  let plan : Plan := ⟨root, patterns, minified⟩
  have compilesVisits : Compiles plan (templateAt (.directory entries) minified)
      (visitsBelow plan [] (Entry.directory entries).sorted) := by
    intro visit member bytes isFile
    rcases (mem_visitsBelow isTree).mp member with ⟨⟨entry, reached, same⟩, isOpen⟩
    rw [isFile] at same
    rw [Entry.eq_file_of_sorted same.symm] at reached
    rcases compiles visit.place bytes ⟨by simp [Visit.place], reached, isOpen⟩ with
      ⟨template, compiled⟩
    rw [templateAt_of_ok reached compiled, ← lastName_place visit]
    exact compiled
  have succeeded := succeeds (Entry.directory entries).sorted plan []
  rw [Succeeds, ← visitsBelow_eq] at succeeded
  rcases succeeded _ {} compilesVisits with ⟨scope, added, extended⟩
  refine ⟨scope, ?_, mirrors_of_extends extended⟩
  rw [assemble_result found read]
  exact added

/-- Assembly succeeds only if the files that are visited compile. -/
theorem compiles_of_assembled {scope : Scope}
    (assembled : (assemble tree root minified exclude).result = .ok scope) {place : List String}
    {bytes : Utf8.Bytes}
    (visited : Plan.Visits ⟨root, patterns, minified⟩ (.directory entries) place (.file bytes)) :
    ∃ template, (compileFile (lastName place) (FileTree.decodeText bytes) minified).result =
      .ok template := by
  rcases visited with ⟨nonempty, reached, isOpen⟩
  have split := List.dropLast_append_getLast nonempty
  have member : (⟨place.dropLast, place.getLast nonempty, .file bytes⟩ : Visit) ∈
      visitsBelow ⟨root, patterns, minified⟩ [] (Entry.directory entries).sorted := by
    apply (mem_visitsBelow isTree).mpr
    rw [Visit.place, split]
    exact ⟨⟨.file bytes, reached, by rw [Entry.sorted]⟩, isOpen⟩
  rw [assemble_result found read] at assembled
  rw [visitsBelow_eq] at member
  have compiled := demands _ _ [] {} scope assembled _ member bytes rfl
  rw [lastName, List.getLast?_eq_some_getLast nonempty, Option.getD_some]
  exact compiled

theorem mirrors_of_assembled {scope : Scope}
    (assembled : (assemble tree root minified exclude).result = .ok scope) :
    Mirrors scope (Plan.files ⟨root, patterns, minified⟩ (.directory entries))
      (Plan.directories ⟨root, patterns, minified⟩ (.directory entries))
      (templateAt (.directory entries) minified) := by
  rcases exists_assembled found isTree read fun place bytes visited =>
    compiles_of_assembled found isTree read assembled visited with ⟨other, same, mirrors⟩
  rw [assembled] at same
  exact Except.ok.inj same ▸ mirrors

end Assembled

end Assembly

end Stencil
