import Stencil.Proofs.Files.Alike
import Stencil.Proofs.Settings.Layers
import Stencil.Settings.Forgiving

/-!
The files that settings are read from. Loading looks at the named settings file, or else at that of
the user and at those of the project, from the working directory upwards, and at no other file.
-/

namespace Stencil.Settings

/-- A directory and those above it; `names` counts the latter. -/
def upwards (directory : Path) : (names : Nat) → List Path
  | 0 => [directory]
  | names + 1 => directory :: upwards directory.parent names

/-- The paths at which loading may look for settings. -/
def filePaths (surroundings : Surroundings) (file projectRoot : Option Path) : List Path :=
  match file with
  | some path => [path]
  | none =>
      let directory := surroundings.files.resolve (Path.ofString "")
      userFilePath surroundings.environment ::
        (projectRoot.elim (upwards directory directory.names.length) ([·])).map (· / projectFileName)

/-- Loading finds the same in later files: the working directory, and what stands at the paths of
settings files. -/
structure IsSettled (surroundings : Surroundings) (file projectRoot : Option Path)
    (after : FileTree) : Prop where
  working : after.working = surroundings.files.working
  contents : ∀ path ∈ filePaths surroundings file projectRoot,
    after.contentOf path = surroundings.files.contentOf path

section Settled

variable {before after : FileTree} {environment : Environment}

theorem findRootFrom_of_contentOf {directory : Path} {names : Nat}
    (same : ∀ path ∈ upwards directory names,
      after.contentOf (path / projectFileName) = before.contentOf (path / projectFileName)) :
    findRootFrom after directory names = findRootFrom before directory names := by
  induction names generalizing directory with
  | zero =>
      have here := FileTree.leadsToFile_of_contentOf (same directory List.mem_cons_self)
      rw [findRootFrom, findRootFrom, here]
  | succ names induction =>
      have here := FileTree.leadsToFile_of_contentOf (same directory List.mem_cons_self)
      have above := induction fun path member => same path (List.mem_cons_of_mem _ member)
      rw [findRootFrom, findRootFrom, here, above]

theorem mem_upwards_of_findRootFrom {tree : FileTree} {directory root : Path} {names : Nat}
    (found : findRootFrom tree directory names = .ok (some root)) :
    root ∈ upwards directory names := by
  induction names generalizing directory with
  | zero =>
      rcases bind_eq_ok.mp found with ⟨isRoot, _, ended⟩
      cases isRoot with
      | false => cases ended
      | true =>
          cases ended
          exact List.mem_cons_self
  | succ names induction =>
      rcases bind_eq_ok.mp found with ⟨isRoot, _, ended⟩
      cases isRoot with
      | false => exact List.mem_cons_of_mem _ (induction ended)
      | true =>
          cases ended
          exact List.mem_cons_self

theorem loadTable_of_contentOf {path : Path}
    (same : after.contentOf path = before.contentOf path) :
    loadTable after path = loadTable before path := by
  rw [loadTable, loadTable, FileTree.readBytes_of_contentOf same]

theorem fillAll_congr {surroundings others : Surroundings} {sources : List Source}
    (same : ∀ source ∈ sources, Config.fill surroundings source = Config.fill others source)
    (merged : Table) :
    Config.fillAll surroundings merged sources = Config.fillAll others merged sources := by
  induction sources generalizing merged with
  | nil => rfl
  | cons source higher induction =>
      rcases List.forall_mem_cons.mp same with ⟨first, later⟩
      simp only [Config.fillAll, first, induction later]

theorem fill_of_contentOf {source : Source}
    (same : ∀ path ∈ source.path, after.contentOf path = before.contentOf path) :
    Config.fill ⟨after, environment⟩ source = Config.fill ⟨before, environment⟩ source := by
  unfold Config.fill
  split
  · rfl
  · rfl
  · rfl
  all_goals
    split
    · rename_i path given _
      rw [loadTable_of_contentOf (same path given)]
    · rfl

end Settled

section Loading

variable {surroundings : Surroundings} {projectRoot : Option Path} {after : FileTree}

/-- The project that is found is one of the directories whose settings files may be read. -/
theorem mem_filePaths_of_currentProject? {root : Path}
    (found : currentProject? surroundings.files = some root) :
    root / projectFileName ∈ filePaths surroundings none none := by
  rw [currentProject?] at found
  split at found
  · rename_i given attempt
    subst found
    rw [findProjectRoot] at attempt
    split at attempt
    · cases attempt
    · exact List.mem_cons_of_mem _ (List.mem_map.mpr
        ⟨root, mem_upwards_of_findRootFrom attempt, rfl⟩)
  · cases found

theorem mem_filePaths_of_root {root : Path}
    (isRoot : projectRoot.or (currentProject? surroundings.files) = some root) :
    root / projectFileName ∈ filePaths surroundings none projectRoot := by
  cases projectRoot with
  | none => exact mem_filePaths_of_currentProject? isRoot
  | some given =>
      cases isRoot
      exact List.mem_cons_of_mem _ List.mem_cons_self

theorem currentProject?_of_isSettled (settled : IsSettled surroundings none none after) :
    currentProject? after = currentProject? surroundings.files := by
  have directory : after.resolve (Path.ofString "") =
      surroundings.files.resolve (Path.ofString "") := by
    rw [FileTree.resolve, FileTree.resolve, settled.working]
  have found : findProjectRoot after none = findProjectRoot surroundings.files none := by
    rw [findProjectRoot, findProjectRoot]
    simp only [Option.getD_none, directory]
    rw [findRootFrom_of_contentOf]
    intro path member
    exact settled.contents _ (List.mem_cons_of_mem _ (List.mem_map.mpr ⟨path, member, rfl⟩))
  rw [currentProject?, currentProject?, found]

theorem IsSettled.root (settled : IsSettled surroundings none projectRoot after) :
    projectRoot.or (currentProject? after) =
      projectRoot.or (currentProject? surroundings.files) := by
  cases projectRoot with
  | none => exact currentProject?_of_isSettled settled
  | some given => rfl

theorem IsSettled.discover (settled : IsSettled surroundings none projectRoot after)
    {request : Request} (asked : request.projectRoot = projectRoot) :
    discover ⟨after, surroundings.environment⟩ request = Settings.discover surroundings request := by
  have user := FileTree.isFile_of_contentOf (settled.contents _ List.mem_cons_self)
  simp only [Settings.discover, asked, settled.root, fileSource, user]
  cases found : projectRoot.or (currentProject? surroundings.files) with
  | none => rfl
  | some root =>
      have project := FileTree.isFile_of_contentOf
        (settled.contents _ (mem_filePaths_of_root found))
      simp only [Option.map_some, project]

/-- A source has a path if it is the file of the project or of the user. -/
theorem mem_filePaths_of_mem_discover {request : Request} {source : Source}
    (member : source ∈ discover surroundings request) {path : Path} (given : path ∈ source.path) :
    path ∈ filePaths surroundings none request.projectRoot := by
  have withPath (noPath : source.path = none) :
      path ∈ filePaths surroundings none request.projectRoot := by
    rw [noPath] at given
    cases given
  rcases List.mem_append.mp member with above | below
  · rcases List.mem_append.mp above with noFile | project
    · rcases List.mem_append.mp noFile with cli | env
      · split at cli
        · exact withPath (congrArg Source.path (List.mem_singleton.mp cli))
        · cases cli
      · split at env
        · exact withPath (congrArg Source.path (List.mem_singleton.mp env))
        · cases env
    · rcases Option.map_eq_some_iff.mp (Option.mem_toList.mp project) with ⟨root, isRoot, rfl⟩
      cases given
      exact mem_filePaths_of_root isRoot
  · rcases List.mem_cons.mp below with user | last
    · rw [user] at given
      rw [← Option.some.inj given]
      exact List.mem_cons_self
    · exact withPath (congrArg Source.path (List.mem_singleton.mp last))

theorem IsSettled.fill (settled : IsSettled surroundings none projectRoot after)
    {request : Request} (asked : request.projectRoot = projectRoot) :
    ∀ source ∈ Settings.discover surroundings request,
      Config.fill ⟨after, surroundings.environment⟩ source = Config.fill surroundings source := by
  intro source member
  subst asked
  apply fill_of_contentOf
  intro path given
  exact settled.contents path (mem_filePaths_of_mem_discover member given)

theorem IsSettled.load (settled : IsSettled surroundings none projectRoot after)
    {request : Request} (asked : request.projectRoot = projectRoot) :
    Config.load ⟨after, surroundings.environment⟩ request = Config.load surroundings request := by
  have filled := fillAll_congr (fun source member =>
    settled.fill asked source (List.mem_reverse.mp member)) []
  rw [Config.load, Config.load, settled.discover asked, filled]

/-- Loading reads nothing of the files but what stands at the paths of settings files. -/
theorem IsSettled.loadForCommand {file : Option Path}
    (settled : IsSettled surroundings file projectRoot after) (overrides : Option Table) :
    loadForCommand ⟨after, surroundings.environment⟩ file projectRoot overrides =
      Settings.loadForCommand surroundings file projectRoot overrides := by
  cases file with
  | none =>
      unfold Settings.loadForCommand
      simp only [settled.load]
  | some path =>
      have same := settled.contents path List.mem_cons_self
      have leads : after.leadsTo (fun _ => true) path =
          surroundings.files.leadsTo (fun _ => true) path :=
        FileTree.leadsTo_of_contentOf same (fun _ => true) fun _ => rfl
      unfold Settings.loadForCommand
      simp only [leads, Config.ofFile, loadTable_of_contentOf same]

end Loading

end Stencil.Settings
