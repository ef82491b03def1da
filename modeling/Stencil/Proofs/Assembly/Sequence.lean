import Mathlib.Data.List.Sort
import Stencil.Proofs.Assembly.Turn
import Stencil.Proofs.Files.Tree

/-!
Where a traversal fails. All that it meets is reported up to the first file that does not compile
alone. Its error is that of the assembly, and without one the classes are those of all files that
were reported.
-/

namespace Stencil

/-- The event of a document that compiled. -/
def Event.isCompiled : Event → Bool
  | documentCompiled .. => true
  | _ => false

namespace Assembly

/-! ## A traversal of a whole tree -/

/-- What a traversal of `root` reports for the entry at `place`, if it does not fail there. -/
inductive Plan.Reports (plan : Plan) (root : Entry) (place : List String) : Event → Prop
  | skipped {entry : Entry} (met : plan.Meets root place entry)
      (excluded : plan.excludes place entry) :
      Reports plan root place (.entrySkipped (plan.pathOf place).toString)
  | entered {inner : List (String × Entry)} (visited : plan.Visits root place (.directory inner)) :
      Reports plan root place
        (.scopeEntered (plan.pathOf place).toString (some (stemOf (lastName place))))
  | compiled {bytes : Utf8.Bytes} {template : TemplateClass}
      (visited : plan.Visits root place (.file bytes))
      (ok : (compileFile (lastName place) (FileTree.decodeText bytes) plan.minified).result =
        .ok template) :
      Reports plan root place
        (.documentCompiled template.name template.fieldNames plan.minified)

/-- The file at `place` is visited and does not compile. -/
def Plan.FailsAt (plan : Plan) (root : Entry) (place : List String) (error : ConversionError) :
    Prop :=
  ∃ bytes, plan.Visits root place (.file bytes) ∧
    (compileFile (lastName place) (FileTree.decodeText bytes) plan.minified).result =
      .error error

/-- The file at `place` is the first of the visited ones that does not compile. -/
def Plan.FailsFirst (plan : Plan) (root : Entry) (place : List String) (error : ConversionError) :
    Prop :=
  plan.FailsAt root place error ∧ ∀ earlier other, earlier < place →
    ¬ plan.FailsAt root earlier other

section Traversal

variable {plan : Plan} {root : Entry} {place : List String}

theorem Plan.FailsAt.mem_metPlaces (tree : root.IsTree) {error : ConversionError}
    (fails : plan.FailsAt root place error) : place ∈ plan.metPlaces root := by
  rcases fails with ⟨bytes, visited, _⟩
  exact (Assembly.mem_metPlaces tree).mpr ⟨_, (visits_iff.mp visited).1⟩

theorem Plan.FailsAt.unique {error other : ConversionError} (fails : plan.FailsAt root place error)
    (failsToo : plan.FailsAt root place other) : error = other := by
  rcases fails with ⟨bytes, visited, failed⟩
  rcases failsToo with ⟨_, visitedToo, failedToo⟩
  cases visited.2.1.symm.trans visitedToo.2.1
  exact Except.error.inj (failed.symm.trans failedToo)

theorem Plan.FailsFirst.unique {otherPlace : List String} {error other : ConversionError}
    (first : plan.FailsFirst root place error) (firstToo : plan.FailsFirst root otherPlace other) :
    place = otherPlace ∧ error = other := by
  rcases lt_trichotomy place otherPlace with before | rfl | after
  · exact absurd first.1 (firstToo.2 _ _ before)
  · exact ⟨rfl, first.1.unique firstToo.1⟩
  · exact absurd firstToo.1 (first.2 _ _ after)

/-- Of a visited file nothing else is reported than that it compiled. -/
theorem Plan.Reports.of_file {bytes : Utf8.Bytes} {event : Event}
    (reports : plan.Reports root place event) (visited : plan.Visits root place (.file bytes)) :
    ∃ template : TemplateClass,
      (compileFile (lastName place) (FileTree.decodeText bytes) plan.minified).result =
        .ok template ∧
      event = .documentCompiled template.name template.fieldNames plan.minified := by
  cases reports with
  | skipped met excluded =>
      cases visited.2.1.symm.trans met.2.1
      rw [(visits_iff.mp visited).2] at excluded
      cases excluded
  | entered visitedToo => cases visited.2.1.symm.trans visitedToo.2.1
  | @compiled _ template visitedToo ok =>
      cases visited.2.1.symm.trans visitedToo.2.1
      exact ⟨template, ok, rfl⟩

/-- In its turn an entry that is met is reported, or it is a file that does not compile. -/
theorem turn_outcome (tree : root.IsTree) {visit : Visit}
    (met : visit ∈ meetingsBelow plan [] root.sorted) :
    (∃ event, plan.turn [] visit = ⟨[event], .ok ()⟩ ∧ plan.Reports root visit.place event) ∨
      ∃ error, plan.turn [] visit = ⟨[], .error error⟩ ∧
        plan.FailsAt root visit.place error := by
  rcases meets_of_mem tree met with ⟨entry, meets, same⟩
  have excludes : plan.excludes visit.place entry.sorted = plan.excludes visit.place entry := by
    rw [Plan.excludes, Plan.excludes, Entry.isDirectory_sorted]
  rw [Plan.turn, List.nil_append, same, excludes, ← lastName_place visit]
  cases excluded : plan.excludes visit.place entry with
  | true => exact .inl ⟨_, rfl, .skipped meets excluded⟩
  | false =>
      have visited := visits_iff.mpr ⟨meets, excluded⟩
      cases entry with
      | directory entries =>
          rw [Entry.sorted]
          exact .inl ⟨_, rfl, .entered visited⟩
      | file bytes =>
          rw [Entry.sorted]
          rcases compileFile_outcome (lastName visit.place) (FileTree.decodeText bytes)
            plan.minified with ⟨template, ended⟩ | ⟨error, ended⟩
          · refine .inl ⟨_, ?_, .compiled visited (congrArg Run.result ended)⟩
            simp only [ended]
            rfl
          · refine .inr ⟨error, ?_, bytes, visited, congrArg Run.result ended⟩
            simp only [ended]
            rfl

theorem filter_lt {before after : List (List String)}
    (increasing : (before ++ place :: after).Pairwise (· < ·)) :
    (before ++ place :: after).filter (· < place) = before := by
  rcases List.pairwise_append.mp increasing with ⟨_, later, smaller⟩
  have greater := (List.pairwise_cons.mp later).1
  rw [List.filter_append, List.filter_cons_of_neg (by simp), List.filter_eq_self.mpr,
    List.filter_eq_nil_iff.mpr, List.append_nil]
  · intro other member
    simpa using (greater other member).le
  · intro other member
    simpa using smaller other member place List.mem_cons_self

theorem exists_of_forall₂ {α β : Type} {related : α → β → Prop} {items : List α} {others : List β}
    (all : List.Forall₂ related items others) {item : α} (member : item ∈ items) :
    ∃ other, related item other := by
  induction all with
  | nil => cases member
  | cons first _ induction =>
      rcases List.mem_cons.mp member with rfl | later
      · exact ⟨_, first⟩
      · exact induction later

theorem countP_of_forall₂ {α β : Type} {related : α → β → Prop} {accepts : α → Bool}
    {acceptsOther : β → Bool}
    (same : ∀ item other, related item other → acceptsOther other = accepts item)
    {items : List α} {others : List β} (all : List.Forall₂ related items others) :
    others.countP acceptsOther = items.countP accepts := by
  induction all with
  | nil => rfl
  | cons first _ induction =>
      rw [List.countP_cons, List.countP_cons, induction, same _ _ first]

/-- What is reported at a place has not failed there. -/
theorem not_failsAt_of_mem {places : List (List String)} {reports : List Event}
    (all : List.Forall₂ (plan.Reports root) places reports) (member : place ∈ places)
    {error : ConversionError} : ¬ plan.FailsAt root place error := by
  intro fails
  rcases fails with ⟨bytes, visited, failed⟩
  rcases exists_of_forall₂ all member with ⟨event, own⟩
  rcases own.of_file visited with ⟨template, ok, _⟩
  cases failed.symm.trans ok

/-- All that is met is reported, or all that is met before the first file that does not
compile. -/
theorem traversal_outcome (tree : root.IsTree) {scope : Scope} (named : scope.IsNamed) :
    (∃ reports, List.Forall₂ (plan.Reports root) (plan.metPlaces root) reports ∧
        (addEntries plan [] scope root.sorted.entries).trace = ⟨reports, .ok ()⟩) ∨
      ∃ place error reports, plan.FailsFirst root place error ∧
        List.Forall₂ (plan.Reports root) ((plan.metPlaces root).filter (· < place)) reports ∧
        (addEntries plan [] scope root.sorted.entries).trace = ⟨reports, .error error⟩ := by
  rw [addEntries_trace plan [] _ scope named, ← meetingsBelow_eq]
  rcases Run.forM_in_turn fun visit => @turn_outcome plan root tree visit with
    ⟨reports, all, same⟩ | ⟨before, visit, after, reports, error, split, all, fails, same⟩
  · exact .inl ⟨reports, List.forall₂_map_left_iff.mpr all, same⟩
  · have increasing := metPlaces_increasing tree plan
    have places : plan.metPlaces root =
        before.map Visit.place ++ visit.place :: after.map Visit.place := by
      rw [Plan.metPlaces, split, List.map_append, List.map_cons]
    rw [places] at increasing
    have reported := List.forall₂_map_left_iff.mpr all
    rw [← filter_lt increasing, ← places] at reported
    refine .inr ⟨visit.place, error, reports, ⟨fails, ?_⟩, reported, same⟩
    intro earlier other smaller failsToo
    have met := failsToo.mem_metPlaces tree
    exact not_failsAt_of_mem reported (List.mem_filter.mpr ⟨met, decide_eq_true smaller⟩) failsToo

/-- A visited file is reported as compiled, and nothing else is. -/
theorem isCompiled_of_reports (tree : root.IsTree) {event : Event}
    (reports : plan.Reports root place event) :
    event.isCompiled = decide (place ∈ plan.files root) := by
  rw [Bool.eq_iff_iff, decide_eq_true_iff, Plan.files, mem_placesOf_files tree]
  constructor
  · intro compiled
    cases reports with
    | skipped met excluded => cases compiled
    | entered visited => cases compiled
    | compiled visited ok => exact ⟨_, visited⟩
  · intro isFile
    rcases isFile with ⟨bytes, visited⟩
    rcases reports.of_file visited with ⟨template, _, rfl⟩
    rfl

theorem countP_isCompiled (tree : root.IsTree) {reports : List Event}
    (all : List.Forall₂ (plan.Reports root) (plan.metPlaces root) reports) :
    reports.countP Event.isCompiled = (plan.files root).length := by
  have kept : (plan.metPlaces root).filter (fun place => decide (place ∈ plan.files root)) =
      plan.files root := by
    apply List.Pairwise.eq_of_mem_iff ((metPlaces_increasing tree plan).filter _)
      (placesOf_increasing tree plan _)
    intro place
    rw [List.mem_filter, decide_eq_true_iff]
    refine and_iff_right_of_imp fun listed => ?_
    rcases (mem_placesOf_files tree).mp listed with ⟨bytes, visited⟩
    exact (mem_metPlaces tree).mpr ⟨_, (visits_iff.mp visited).1⟩
  have counted : reports.countP Event.isCompiled =
      (plan.metPlaces root).countP fun place => decide (place ∈ plan.files root) := by
    apply countP_of_forall₂ _ all
    intro place event
    exact isCompiled_of_reports tree
  rw [counted, List.countP_eq_length_filter, kept]

end Traversal

/-! ## Assembly -/

theorem assembleFile_of_find {tree : FileTree} {path : Path} {bytes : Utf8.Bytes}
    (found : tree.find path = .ok (.file bytes)) (minified : Bool) :
    assembleFile tree path minified =
      compileFile path.name (FileTree.decodeText bytes) minified := by
  simp [assembleFile, FileTree.readText, FileTree.readBytes, found]

section Assembled

variable {tree : FileTree} {plan : Plan} {entries : List (String × Entry)} {exclude : List String}
  (found : tree.find plan.root = .ok (.directory entries))
  (isTree : (Entry.directory entries).IsTree)
  (read : Ignore.patternsFor tree plan.root { extra := exclude } = .ok plan.patterns)

include found isTree read

/-- All that is met is reported and the classes are counted, or the first file that does not
compile ends the run. -/
theorem assemble_outcome :
    (∃ reports scope,
      List.Forall₂ (plan.Reports (.directory entries)) (plan.metPlaces (.directory entries))
        reports ∧
      assemble tree plan.root plan.minified exclude =
        ⟨.scopeEntered plan.root.toString none :: reports ++
          [.directoryAssembled plan.root.toString scope.typeCount (scope.walk.length - 1)],
          .ok scope⟩ ∧
      scope.typeCount = reports.countP Event.isCompiled) ∨
    ∃ place error reports, plan.FailsFirst (.directory entries) place error ∧
      List.Forall₂ (plan.Reports (.directory entries))
        ((plan.metPlaces (.directory entries)).filter (· < place)) reports ∧
      assemble tree plan.root plan.minified exclude =
        ⟨.scopeEntered plan.root.toString none :: reports, .error error⟩ := by
  have named : Scope.IsNamed {} := by
    intro chain name inner found
    cases chain <;> cases found
  have started : assemble tree plan.root plan.minified exclude = (do
      Run.report (.scopeEntered plan.root.toString none)
      let scope ← addEntries plan [] {} (Entry.directory entries).sorted.entries
      Run.report (.directoryAssembled plan.root.toString scope.typeCount (scope.walk.length - 1))
      return scope) := by
    simp only [assemble, found, read]
  rcases @traversal_outcome plan _ isTree _ named with
    ⟨reports, all, traced⟩ | ⟨place, error, reports, first, all, traced⟩
  · rcases Run.eq_of_trace_ok traced with ⟨scope, added⟩
    have assembled : assemble tree plan.root plan.minified exclude =
        ⟨.scopeEntered plan.root.toString none :: reports ++
          [.directoryAssembled plan.root.toString scope.typeCount (scope.walk.length - 1)],
          .ok scope⟩ := by
      rw [started, Run.bind_of_ok rfl, added, Run.bind_of_ok rfl, Run.bind_of_ok rfl]
      rfl
    refine .inl ⟨reports, scope, all, assembled, ?_⟩
    rw [countP_isCompiled isTree all]
    exact (mirrors_of_assembled found isTree read (congrArg Run.result assembled)).typeCount
  · refine .inr ⟨place, error, reports, first, all, ?_⟩
    rw [started, Run.bind_of_ok rfl, Run.eq_of_trace_error traced, Run.bind_of_error rfl]
    rfl

end Assembled

/-! ## A file that cannot be read -/

/-- A draft, two directories of one stem, and two files that are not texts. -/
def halves : List (String × Entry) :=
  [("a.txt", .file [120]), ("v1.0", .directory [("a.html", .file [120])]),
    ("v1.1", .directory [("b.html", .file [255]), ("c.html", .file [121])]),
    ("z.html", .file [254])]

def halvesTree : FileTree := ⟨.directory [("t", .directory halves)], []⟩

theorem halves_isTree : (Entry.directory halves).IsTree := by
  have first : (Entry.directory [("a.html", .file [120])]).IsTree :=
    Entry.isTree_of_all (by decide) (by simp [Entry.isTree_file])
  have second : (Entry.directory [("b.html", .file [255]), ("c.html", .file [121])]).IsTree :=
    Entry.isTree_of_all (by decide) (by simp [Entry.isTree_file])
  exact Entry.isTree_of_all (by decide) (by simp [halves, Entry.isTree_file, first, second])

theorem halves_sorted : (Entry.directory halves).sorted = .directory halves := by
  apply Entry.sorted_directory _ (by decide)
  intro name entry member
  simp only [halves, List.mem_cons, List.not_mem_nil, or_false, Prod.mk.injEq] at member
  rcases member with ⟨_, rfl⟩ | ⟨_, rfl⟩ | ⟨_, rfl⟩ | ⟨_, rfl⟩
  · rw [Entry.sorted]
  · exact Entry.sorted_files (by decide) (by decide)
  · exact Entry.sorted_files (by decide) (by decide)
  · rw [Entry.sorted]

theorem halves_files : versionsPlan.files (.directory halves) =
    [["v1.0", "a.html"], ["v1.1", "b.html"], ["v1.1", "c.html"], ["z.html"]] := by
  rw [Plan.files, halves_sorted]
  rfl

theorem halves_failsFirst : versionsPlan.FailsFirst (.directory halves) ["v1.1", "b.html"]
    (.reading (.decoding ⟨0, 1, 255, .invalidStart⟩)) := by
  have inFiles (place : List String) : place ∈ versionsPlan.files (.directory halves) ↔
      ∃ bytes, versionsPlan.Visits (.directory halves) place (.file bytes) :=
    mem_placesOf_files halves_isTree
  rw [halves_files] at inFiles
  constructor
  · rcases (inFiles ["v1.1", "b.html"]).mp (by decide) with ⟨bytes, visited⟩
    have reached := visited.2.1
    cases reached
    exact ⟨_, visited, by decide +kernel⟩
  · intro earlier other before fails
    rcases fails with ⟨bytes, visited, failed⟩
    have listed := (inFiles earlier).mpr ⟨bytes, visited⟩
    simp only [List.mem_cons, List.not_mem_nil, or_false] at listed
    rcases listed with rfl | rfl | rfl | rfl
    · have reached := visited.2.1
      cases reached
      have compiled : (compileFile "a.html" (FileTree.decodeText [120]) true).result =
          .ok ⟨"A", [], "x"⟩ := by decide +kernel
      cases compiled.symm.trans failed
    · exact absurd before (by decide)
    · exact absurd before (by decide)
    · exact absurd before (by decide)

end Assembly

end Stencil
