import Stencil.Proofs.Assembly.Position
import Stencil.Proofs.ClassSource.Lookup

/-!
Templates of a directory when its source is run. The class of each is found by the names of the
scopes around it and its own, and renders as the class of the template alone, provided that names
in a scope are told apart as they are compared and that each template runs.
-/

namespace Stencil

/-- The source of a directory that converts is the checked source of its tree of scopes. -/
theorem convertDirectory_eq_ok {tree : FileTree} {root : Path} {minified : Bool}
    {exclude : List String} {source : String} {scope : Scope}
    (converted : (convertDirectory tree root minified true exclude).result = .ok source)
    (assembled : (assemble tree root minified exclude).result = .ok scope) :
    sourceError? scope = none ∧ source = moduleSource scope := by
  rw [convertDirectory, Run.bind_result_of_ok assembled] at converted
  exact emitScope_eq_ok converted

theorem emitScope_of_accepted {scope : Scope} (accepted : sourceError? scope = none) :
    (emitScope scope true).result = .ok (moduleSource scope) := by
  have emitted : emitModule scope true = .ok (moduleSource scope) := by
    simp only [emitModule, accepted]
  rw [emitScope, emitted]
  rfl

theorem convertDirectory_of_accepted {tree : FileTree} {root : Path} {minified : Bool}
    {exclude : List String} {scope : Scope}
    (assembled : (assemble tree root minified exclude).result = .ok scope)
    (accepted : sourceError? scope = none) :
    (convertDirectory tree root minified true exclude).result = .ok (moduleSource scope) := by
  rw [convertDirectory, Run.bind_result_of_ok assembled]
  exact emitScope_of_accepted accepted

/-- A document that compiles to a template and whose source, alone, runs. -/
structure RunsAs (document filename : String) (minified : Bool) (template : TemplateClass)
    (alone : String) : Prop where
  name : className filename = .ok template.name
  header : headerFields document = .ok template.fields
  body : template.body = substitute (documentBody document minified)
  converted : (convertDocument document filename minified true).result = .ok alone
  loads : loadError? (.ofTemplate template) = none
  running : Source.run? alone =
    some (.ok [(sourceName template.name, .template (loadTemplate "" template))])

theorem runsAs_of_loads {document filename : String} {minified : Bool} {template : TemplateClass}
    (compiled : (documentTemplate document filename minified).result = .ok template)
    (loads : loadError? (.ofTemplate template) = none) :
    RunsAs document filename minified template (moduleSource (.ofTemplate template)) := by
  rcases documentTemplate_eq_ok compiled with ⟨named, header, body⟩
  have accepted := (loadError?_eq_none_iff.mp loads).1
  have words := Source.hasWordTypes_ofTemplate (isWord_of_headerFields header)
  refine ⟨named, header, body, ?_, loads, ?_⟩
  · rw [convertDocument, Run.bind_result_of_ok compiled]
    exact emitScope_of_accepted accepted
  · rw [Source.run?_moduleSource words, Option.some_inj, loadModule_eq_ok_iff,
      loadMembers_ofTemplate]
    exact ⟨loads, rfl⟩

theorem runsAs_of_run? {document filename alone : String} {minified : Bool}
    {template : TemplateClass} {classes : List (String × LoadedClass)}
    (named : className filename = .ok template.name)
    (header : headerFields document = .ok template.fields)
    (body : template.body = substitute (documentBody document minified))
    (converted : (convertDocument document filename minified true).result = .ok alone)
    (running : Source.run? alone = some (.ok classes)) :
    RunsAs document filename minified template alone := by
  rcases convertDocument_eq_ok converted with
    ⟨other, namedToo, headerToo, bodyToo, _, rfl⟩
  rw [named] at namedToo
  rw [header] at headerToo
  have same : other = template := by
    rcases other with ⟨_, _, _⟩
    rcases template with ⟨_, _, _⟩
    simp_all
  subst same
  have words := Source.hasWordTypes_ofTemplate (isWord_of_headerFields header)
  have loaded := running
  rw [Source.run?_moduleSource words, Option.some_inj, loadModule_eq_ok_iff,
    loadMembers_ofTemplate] at loaded
  exact ⟨named, header, body, converted, loaded.1, loaded.2 ▸ running⟩

namespace Assembly

/-- The templates of a directory in its source. If the directory converts, if names are told apart
in each scope as they are compared, and if the source of each template alone runs, then the source
of the directory runs, and the names of the scopes and of the class lead to each template. Its
instances render as those of the template alone, if all references in it are declared. -/
theorem convertDirectory_reaches {tree : FileTree} {root : Path}
    {entries : List (String × Entry)} {minified : Bool} {exclude : List String}
    {patterns : Option (List Ignore.Pattern)} {source : String} {scope : Scope}
    (found : tree.find root = .ok (.directory entries))
    (isTree : (Entry.directory entries).IsTree)
    (read : Ignore.patternsFor tree root { extra := exclude } = .ok patterns)
    (converted : (convertDirectory tree root minified true exclude).result = .ok source)
    (assembled : (assemble tree root minified exclude).result = .ok scope)
    (free : scope.IsCollisionFree sourceName)
    (runs : ∀ place bytes text,
      Plan.Visits ⟨root, patterns, minified⟩ (.directory entries) place (.file bytes) →
        FileTree.decodeText bytes = .ok text → ∃ alone classes,
          (convertDocument text (lastName place) minified true).result = .ok alone ∧
          Source.run? alone = some (.ok classes)) :
    ∃ classes, Source.run? source = some (.ok classes) ∧
      ∀ place bytes,
        Plan.Visits ⟨root, patterns, minified⟩ (.directory entries) place (.file bytes) →
          ∃ text name fields alone own there,
            FileTree.decodeText bytes = .ok text ∧ className (lastName place) = .ok name ∧
            headerFields text = .ok fields ∧
            (convertDocument text (lastName place) minified true).result = .ok alone ∧
            Source.run? alone = some (.ok [(sourceName name, .template own)]) ∧
            follow? (sourceName name) classes ((chainAbove place).map sourceName) =
              some (.template there) ∧
            { there with qualified := own.qualified } = own ∧
            ∀ scan, Placeholder.Scan (documentBody text minified).toList scan →
              (∀ reference, .field reference ∈ scan →
                ∃ field ∈ fields, toIdentifier field.name = toIdentifier (.ofList reference)) →
              ∀ arguments : List Argument, arguments.length = fields.length →
                there.render classes arguments =
                  own.render [(sourceName name, .template own)] arguments := by
  have compiles (place : List String) (bytes : Utf8.Bytes)
      (visited : Plan.Visits ⟨root, patterns, minified⟩ (.directory entries) place
        (.file bytes)) := compiles_of_assembled found isTree read assembled visited
  have mirrors := mirrors_of_assembled found isTree read assembled
  have words := hasWordTypes_of_mirrors compiles isTree mirrors
  rcases convertDirectory_eq_ok converted assembled with ⟨accepted, rfl⟩
  let template := templateAt (.directory entries) minified
  have documents (place : List String) (bytes : Utf8.Bytes)
      (visited : Plan.Visits ⟨root, patterns, minified⟩ (.directory entries) place
        (.file bytes)) :
      ∃ text alone, FileTree.decodeText bytes = .ok text ∧
        RunsAs text (lastName place) minified (template place) alone := by
    rcases compileFile_eq_ok (compileFile_templateAt compiles visited) with
      ⟨text, decoded, named, header, body⟩
    rcases runs place bytes text visited decoded with ⟨alone, classes, single, running⟩
    exact ⟨text, alone, decoded, runsAs_of_run? named header body single running⟩
  have loads : loadError? scope = none := by
    apply loadError?_eq_none accepted free
    intro other listed
    rcases exists_file_of_mem_templatesOf mirrors listed with ⟨place, member, rfl⟩
    rcases (mem_placesOf_files isTree).mp member with ⟨bytes, visited⟩
    rcases documents place bytes visited with ⟨text, alone, _, runsAs⟩
    exact runsAs.loads
  have running : loadModule scope = .ok (loadMembers "" scope) :=
    loadModule_eq_ok_iff.mpr ⟨loads, rfl⟩
  refine ⟨loadMembers "" scope, by rw [Source.run?_moduleSource words, running], ?_⟩
  intro place bytes visited
  rcases documents place bytes visited with ⟨text, alone, decoded, runsAs⟩
  have listed := (mem_placesOf_files isTree).mpr ⟨bytes, visited⟩
  rcases exists_scope_of_mem_files mirrors listed (mem_directories_of_visits isTree visited) with
    ⟨inner, reached, located⟩
  rcases follow?_loadMembers free reached (List.mem_of_getElem? located) "" with
    ⟨qualifier, followed⟩
  refine ⟨text, (template place).name, (template place).fields, alone,
    loadTemplate "" (template place), loadTemplate qualifier (template place), decoded,
    runsAs.name, runsAs.header, runsAs.converted, runsAs.running, followed,
    loadTemplate_qualified qualifier "" (template place), ?_⟩
  intro scan scanned declared arguments count
  exact render_congr count runsAs.body scanned declared qualifier "" _ _

/-! ## A page in a directory -/

/-- A page, and another one with a field in a directory. -/
def shelf : List (String × Entry) :=
  [("home.html", .file [120]),
    ("v1.0", .directory [("item.html", .file [0x7b, 116, 105, 116, 108, 101, 58, 32, 115, 116, 114,
      0x7d, 10, 64, 116, 105, 116, 108, 101, 64])])]

def shelfTree : FileTree := ⟨.directory [("t", .directory shelf)], []⟩

def homeTemplate : TemplateClass := ⟨"Home", [], "x"⟩

def itemTemplate : TemplateClass := ⟨"Item", [⟨"title", "str"⟩], "\x7btitle\x7d"⟩

def shelfScope : Scope where
  types := [homeTemplate]
  children := [("v1", { name := some "v1", types := [itemTemplate] })]

/-- The plan for a directory without an ignore file. -/
def plainPlan : Plan := ⟨.ofString "t", none, true⟩

theorem shelf_isTree : (Entry.directory shelf).IsTree := by
  apply Entry.isTree_directory (by decide)
  intro name entry member
  simp only [shelf, List.mem_cons, List.not_mem_nil, or_false, Prod.mk.injEq] at member
  rcases member with ⟨_, rfl⟩ | ⟨_, rfl⟩
  · exact Entry.isTree_file _
  · exact Entry.isTree_directory (by decide) (by simp [Entry.isTree_file])

theorem shelf_sorted : (Entry.directory shelf).sorted = .directory shelf := by
  apply Entry.sorted_directory _ (by decide)
  intro name entry member
  simp only [shelf, List.mem_cons, List.not_mem_nil, or_false, Prod.mk.injEq] at member
  rcases member with ⟨_, rfl⟩ | ⟨_, rfl⟩
  · rw [Entry.sorted]
  · exact Entry.sorted_directory (by simp [Entry.sorted]) (by decide)

theorem shelf_assembled : (assemble shelfTree (.ofString "t") true []).result = .ok shelfScope := by
  have found : shelfTree.find (.ofString "t") = .ok (.directory shelf) := rfl
  have read : Ignore.patternsFor shelfTree (.ofString "t") { extra := [] } = .ok none := rfl
  rw [assemble_result found read, shelf_sorted]
  rfl

theorem shelf_places :
    plainPlan.files (.directory shelf) = [["home.html"], ["v1.0", "item.html"]] := by
  rw [Plan.files, shelf_sorted]
  rfl

theorem shelf_files {place : List String} {bytes : Utf8.Bytes}
    (visited : plainPlan.Visits (.directory shelf) place (.file bytes)) :
    (place = ["home.html"] ∧ FileTree.decodeText bytes = .ok "x") ∨
      (place = ["v1.0", "item.html"] ∧
        FileTree.decodeText bytes = .ok "\x7btitle: str\x7d\n@title@") := by
  have member := (mem_placesOf_files shelf_isTree).mpr ⟨bytes, visited⟩
  have reached := visited.2.1
  rw [← Plan.files, shelf_places] at member
  rcases List.mem_pair.mp member with rfl | rfl
  · cases reached
    exact .inl ⟨rfl, by decide⟩
  · cases reached
    exact .inr ⟨rfl, by decide⟩

theorem home_runsAs :
    RunsAs "x" "home.html" true homeTemplate (moduleSource (.ofTemplate homeTemplate)) :=
  runsAs_of_loads (by decide) (by decide)

theorem item_runsAs :
    RunsAs "\x7btitle: str\x7d\n@title@" "item.html" true itemTemplate
      (moduleSource (.ofTemplate itemTemplate)) :=
  runsAs_of_loads (by decide) (by decide +kernel)

theorem shelf_runs {place : List String} {bytes : Utf8.Bytes} {text : String}
    (visited : plainPlan.Visits (.directory shelf) place (.file bytes))
    (decoded : FileTree.decodeText bytes = .ok text) :
    ∃ alone classes, (convertDocument text (lastName place) true true).result = .ok alone ∧
      Source.run? alone = some (.ok classes) := by
  rcases shelf_files visited with ⟨rfl, same⟩ | ⟨rfl, same⟩
  · rw [same] at decoded
    cases decoded
    exact ⟨_, _, home_runsAs.converted, home_runsAs.running⟩
  · rw [same] at decoded
    cases decoded
    exact ⟨_, _, item_runsAs.converted, item_runsAs.running⟩

theorem item_scan :
    Placeholder.Scan (documentBody "\x7btitle: str\x7d\n@title@" true).toList
      [.field "title".toList] := by
  have pieces : Placeholder.pieces (documentBody "\x7btitle: str\x7d\n@title@" true).toList =
      [.field "title".toList] := by decide
  rw [← pieces]
  exact Placeholder.scan_pieces _

/-- The class of the page in the directory is found, and it renders its value. -/
theorem convertDirectory_shelf :
    ∃ source classes there,
      (convertDirectory shelfTree (.ofString "t") true true []).result = .ok source ∧
      shelfScope.IsCollisionFree sourceName ∧
      Source.run? source = some (.ok classes) ∧
      follow? "Item" classes ["v1"] = some (.template there) ∧
      there.render classes [.text "a"] = .ok "a" := by
  have found : shelfTree.find (.ofString "t") = .ok (.directory shelf) := rfl
  have read : Ignore.patternsFor shelfTree (.ofString "t") { extra := [] } = .ok none := rfl
  have free : shelfScope.IsCollisionFree sourceName := by decide +kernel
  have converted := convertDirectory_of_accepted shelf_assembled (by decide +kernel)
  rcases convertDirectory_reaches found shelf_isTree read converted shelf_assembled free
    (fun _ _ _ => shelf_runs) with ⟨classes, running, reaches⟩
  have listed : ["v1.0", "item.html"] ∈ plainPlan.files (.directory shelf) := by
    rw [shelf_places]
    decide
  rcases (mem_placesOf_files shelf_isTree).mp listed with ⟨bytes, visited⟩
  rcases reaches _ bytes visited with
    ⟨text, name, fields, alone, own, there, decoded, named, header, single, runningAlone, followed,
      _, renders⟩
  have sameText : text = "\x7btitle: str\x7d\n@title@" := by
    rcases shelf_files visited with ⟨other, _⟩ | ⟨_, same⟩
    · exact absurd other (by decide)
    · exact Except.ok.inj (decoded.symm.trans same)
  subst sameText
  have sameName : name = "Item" := Except.ok.inj (named.symm.trans item_runsAs.name)
  have sameFields : fields = itemTemplate.fields :=
    Except.ok.inj (header.symm.trans item_runsAs.header)
  have sameAlone : alone = moduleSource (.ofTemplate itemTemplate) :=
    Except.ok.inj (single.symm.trans item_runsAs.converted)
  subst sameName sameFields sameAlone
  have sameOwn : own = loadTemplate "" itemTemplate := by
    have equal := runningAlone.symm.trans item_runsAs.running
    simp only [Option.some_inj, Except.ok.injEq, List.cons.injEq, Prod.mk.injEq,
      LoadedClass.template.injEq, and_true] at equal
    exact equal.2
  have declared : ∀ reference, .field reference ∈ [Piece.field "title".toList] →
      ∃ field ∈ itemTemplate.fields,
        toIdentifier field.name = toIdentifier (.ofList reference) := by
    intro reference member
    cases List.mem_singleton.mp member
    decide +kernel
  refine ⟨_, classes, there, converted, free, running, ?_, ?_⟩
  · have names : sourceName "Item" = "Item" ∧
        (chainAbove ["v1.0", "item.html"]).map sourceName = ["v1"] := by decide +kernel
    rw [names.1, names.2] at followed
    exact followed
  · rw [renders _ item_scan declared [.text "a"] rfl, sameOwn]
    decide +kernel

/-! ## Pages that are not found -/

theorem visits_file {plan : Plan} {entries : List (String × Entry)} {name : String}
    {bytes : Utf8.Bytes} (found : (Entry.directory entries).child? name = some (.file bytes))
    (admitted : plan.admits [name] (.file bytes)) :
    plan.Visits (.directory entries) [name] (.file bytes) := by
  have reached : (Entry.directory entries).descend? [name] = some (.file bytes) := by
    simp [Entry.descend?, found]
  exact ⟨List.cons_ne_nil _ _, reached,
    (Plan.isOpen_cons found []).mpr ⟨admitted, Plan.isOpen_nil _ _ _⟩⟩

/-- A page, and a template that has one field twice. -/
def doubled : List (String × Entry) :=
  [("a.html", .file [120]),
    ("b.html", .file [0x7b, 97, 58, 32, 115, 116, 114, 10, 97, 58, 32, 115, 116, 114, 0x7d, 10])]

def doubledTree : FileTree := ⟨.directory [("t", .directory doubled)], []⟩

def doubledScope : Scope where
  types := [⟨"A", [], "x"⟩, ⟨"B", [⟨"a", "str"⟩, ⟨"a", "str"⟩], ""⟩]

/-- Two pages of different names that are the same when they are compared. -/
def ordinal : List (String × Entry) :=
  [("xa.html", .file [120]), ("x\u00AA.html", .file [121])]

def ordinalTree : FileTree := ⟨.directory [("t", .directory ordinal)], []⟩

def ordinalScope : Scope where
  types := [⟨"Xa", [], "x"⟩, ⟨"X\u00AA", [], "y"⟩]

theorem doubled_assembled :
    (assemble doubledTree (.ofString "t") true []).result = .ok doubledScope := by
  have found : doubledTree.find (.ofString "t") = .ok (.directory doubled) := rfl
  have read : Ignore.patternsFor doubledTree (.ofString "t") { extra := [] } = .ok none := rfl
  have sorted : (Entry.directory doubled).sorted = .directory doubled :=
    Entry.sorted_files (by decide) (by decide)
  rw [assemble_result found read, sorted]
  rfl

theorem ordinal_assembled :
    (assemble ordinalTree (.ofString "t") true []).result = .ok ordinalScope := by
  have found : ordinalTree.find (.ofString "t") = .ok (.directory ordinal) := rfl
  have read : Ignore.patternsFor ordinalTree (.ofString "t") { extra := [] } = .ok none := rfl
  have sorted : (Entry.directory ordinal).sorted = .directory ordinal :=
    Entry.sorted_files (by decide) (by decide)
  rw [assemble_result found read, sorted]
  rfl

theorem run?_doubled :
    Source.run? (moduleSource doubledScope) = some (.error (.duplicateParameter "a")) := by
  have templates : templatesOf doubledScope = doubledScope.types := rfl
  have words : ∀ template ∈ templatesOf doubledScope, Source.HasWordTypes template := by
    have word : Source.IsWord "str".toList := Source.isWord_of_all (by decide)
    rw [templates]
    simpa [doubledScope, Source.HasWordTypes] using word
  have error : loadError? doubledScope = some (.duplicateParameter "a") := by decide
  rw [Source.run?_moduleSource words, loadModule, error]

theorem run?_ordinal :
    Source.run? (moduleSource ordinalScope) = some (.ok (loadMembers "" ordinalScope)) := by
  have templates : templatesOf ordinalScope = ordinalScope.types := rfl
  have words : ∀ template ∈ templatesOf ordinalScope, Source.HasWordTypes template := by
    rw [templates]
    simp [ordinalScope, Source.HasWordTypes]
  rw [Source.run?_moduleSource words, loadModule_eq_ok_iff.mpr ⟨by decide, rfl⟩]

/-- It is not enough that quoted names differ. One template that does not run takes the others
with it, and of names that are the same when they are compared the last one counts. -/
theorem convertDirectory_unreachable :
    (∃ source,
      (convertDirectory doubledTree (.ofString "t") true true []).result = .ok source ∧
      (assemble doubledTree (.ofString "t") true []).result = .ok doubledScope ∧
      doubledScope.IsCollisionFree toIdentifier ∧
      plainPlan.Visits (.directory doubled) ["a.html"] (.file [120]) ∧
      Source.run? source = some (.error (.duplicateParameter "a"))) ∧
    ∃ source alone classes there own,
      (convertDirectory ordinalTree (.ofString "t") true true []).result = .ok source ∧
      (assemble ordinalTree (.ofString "t") true []).result = .ok ordinalScope ∧
      ordinalScope.IsCollisionFree toIdentifier ∧
      plainPlan.Visits (.directory ordinal) ["xa.html"] (.file [120]) ∧
      Source.run? source = some (.ok classes) ∧
      follow? "Xa" classes [] = some (.template there) ∧
      there.render classes [] = .ok "y" ∧
      (convertDocument "x" "xa.html" true true).result = .ok alone ∧
      Source.run? alone = some (.ok [("Xa", .template own)]) ∧
      own.render [("Xa", .template own)] [] = .ok "x" := by
  have doubledAccepted : sourceError? doubledScope = none := by decide +kernel
  have ordinalAccepted : sourceError? ordinalScope = none := by decide +kernel
  have single : RunsAs "x" "xa.html" true ⟨"Xa", [], "x"⟩
      (moduleSource (.ofTemplate ⟨"Xa", [], "x"⟩)) :=
    runsAs_of_loads (by decide +kernel) (by decide +kernel)
  have names : sourceName "Xa" = "Xa" ∧ sourceName "X\u00AA" = "Xa" := by decide +kernel
  have members : loadMembers "" ordinalScope =
      [("Xa", .template (loadTemplate "" ⟨"Xa", [], "x"⟩)),
        ("Xa", .template (loadTemplate "" ⟨"X\u00AA", [], "y"⟩))] := by
    rw [loadMembers_eq, loadChildren_eq]
    simp only [ordinalScope, List.map_cons, List.map_nil, List.append_nil, names]
  have running := single.running
  rw [names.1] at running
  constructor
  · refine ⟨_, convertDirectory_of_accepted doubled_assembled doubledAccepted, doubled_assembled,
      by decide +kernel, visits_file rfl (by decide), ?_⟩
    exact run?_doubled
  · refine ⟨_, _, loadMembers "" ordinalScope, loadTemplate "" ⟨"X\u00AA", [], "y"⟩,
      loadTemplate "" ⟨"Xa", [], "x"⟩,
      convertDirectory_of_accepted ordinal_assembled ordinalAccepted, ordinal_assembled,
      by decide +kernel, visits_file rfl (by decide), ?_, ?_, by decide +kernel, single.converted,
      running, by decide +kernel⟩
    · exact run?_ordinal
    · rw [members]
      rfl

end Assembly

end Stencil
