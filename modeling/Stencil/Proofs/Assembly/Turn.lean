import Stencil.Proofs.Assembly.Meeting
import Stencil.Proofs.Assembly.Outcome

/-!
A traversal as a sequence of turns. Directories of one stem share a scope, and every scope is handed
on from entry to entry, but what is reported and whether there is a failure depend on one entry
after the other: each that is met has its turn.
-/

namespace Stencil

/-! ## Runs in turn -/

namespace Run

variable {ε α β : Type}

theorem bind_assoc {γ : Type} (first : Run ε α) (second : α → Run ε β) (third : β → Run ε γ) :
    first >>= second >>= third = first >>= fun value => second value >>= third := by
  cases ended : first.result with
  | error error =>
      rw [bind_of_error ended, bind_of_error ended]
      exact bind_of_error rfl third
  | ok value =>
      rw [bind_of_ok ended, bind_of_ok ended]
      cases further : (second value).result with
      | error error =>
          rw [bind_of_error further]
          exact bind_of_error rfl third
      | ok middle =>
          rw [bind_of_ok further, ← List.append_assoc]
          exact bind_of_ok rfl third

theorem bind_pure_self (run : Run ε α) : run >>= pure = run := by
  cases ended : run.result with
  | error error => rw [bind_of_error ended, ← ended]
  | ok value => rw [bind_of_ok ended, pure_events, pure_result, List.append_nil, ← ended]

instance : LawfulMonad (Run ε) :=
  .mk' _ bind_pure_self (fun _ _ => bind_of_ok rfl _) bind_assoc

/-- The run without its value: what it reports, and the error that ends it if there is one. -/
def trace (run : Run ε α) : Run ε Unit := ⟨run.events, run.result.map fun _ => ()⟩

theorem trace_bind (first : Run ε α) (next : α → Run ε β) :
    (first >>= next).trace = first >>= fun value => (next value).trace := by
  cases ended : first.result with
  | error error =>
      rw [bind_of_error ended, bind_of_error ended]
      rfl
  | ok value =>
      rw [bind_of_ok ended, bind_of_ok ended]
      rfl

/-- Where the value of a run is not used, its trace is enough. -/
theorem bind_const (first : Run ε α) (rest : Run ε β) :
    (first >>= fun _ => rest) = first.trace >>= fun _ => rest := by
  cases ended : first.result with
  | error error =>
      have traced : first.trace.result = .error error := by rw [trace, ended]; rfl
      rw [bind_of_error ended, bind_of_error traced]
      rfl
  | ok value =>
      have traced : first.trace.result = .ok () := by rw [trace, ended]; rfl
      rw [bind_of_ok ended, bind_of_ok traced]
      rfl

theorem trace_bind_pure (run : Run ε α) (build : α → β) :
    (run >>= fun value => pure (build value)).trace = run.trace := by
  have traced : run.trace = run.trace >>= fun _ => pure () := (bind_pure_self run.trace).symm
  rw [trace_bind, traced, ← bind_const]
  rfl

theorem eq_of_trace_ok {run : Run ε α} {events : List Event}
    (traced : run.trace = ⟨events, .ok ()⟩) : ∃ value, run = ⟨events, .ok value⟩ := by
  rcases run with ⟨own, error | value⟩
  · cases traced
  · cases traced
    exact ⟨value, rfl⟩

theorem eq_of_trace_error {run : Run ε α} {events : List Event} {error : ε}
    (traced : run.trace = ⟨events, .error error⟩) : run = ⟨events, .error error⟩ := by
  rcases run with ⟨own, other | value⟩
  · cases traced
    rfl
  · cases traced

theorem bind_congr_ok {first : Run ε α} {next other : α → Run ε β}
    (same : ∀ value, first.result = .ok value → next value = other value) :
    first >>= next = first >>= other := by
  cases ended : first.result with
  | error error => rw [bind_of_error ended, bind_of_error ended]
  | ok value => rw [bind_of_ok ended, bind_of_ok ended, same value ended]

/-- Steps of which each reports one event, or fails and reports none. Either all items have their
turn, or those before the first item whose step fails. -/
theorem forM_in_turn {step : α → Run ε Unit} {reports : α → Event → Prop} {fails : α → ε → Prop}
    {items : List α}
    (outcome : ∀ item ∈ items, (∃ event, step item = ⟨[event], .ok ()⟩ ∧ reports item event) ∨
      ∃ error, step item = ⟨[], .error error⟩ ∧ fails item error) :
    (∃ events, List.Forall₂ reports items events ∧ forM items step = ⟨events, .ok ()⟩) ∨
      ∃ before item after events error, items = before ++ item :: after ∧
        List.Forall₂ reports before events ∧ fails item error ∧
        forM items step = ⟨events, .error error⟩ := by
  induction items with
  | nil => exact .inl ⟨[], .nil, rfl⟩
  | cons head tail induction =>
      have later := induction fun item member => outcome item (List.mem_cons_of_mem _ member)
      rw [List.forM_cons]
      rcases outcome head List.mem_cons_self with ⟨event, ended, reported⟩ | ⟨error, ended, failed⟩
      · rw [ended, bind_of_ok rfl]
        rcases later with ⟨events, all, same⟩ | ⟨before, item, after, events, error, split, all,
          failed, same⟩
        · exact .inl ⟨event :: events, .cons reported all, by rw [same]; rfl⟩
        · refine .inr ⟨head :: before, item, after, event :: events, error, ?_,
            .cons reported all, failed, by rw [same]; rfl⟩
          rw [split, List.cons_append]
      · rw [ended, bind_of_error rfl]
        exact .inr ⟨[], head, tail, [], error, rfl, .nil, failed, rfl⟩

end Run

/-- A document either compiles, which is all it reports, or fails and reports nothing. -/
theorem compileTemplate_outcome (document name : String) (minified : Bool) :
    (∃ template : TemplateClass, compileTemplate document name minified =
        ⟨[.documentCompiled template.name template.fieldNames minified], .ok template⟩) ∨
      ∃ error, compileTemplate document name minified = ⟨[], .error error⟩ := by
  simp only [compileTemplate]
  cases headerFields document with
  | error error => exact .inr ⟨error, rfl⟩
  | ok fields => exact .inl ⟨⟨name, fields, substitute (documentBody document minified)⟩, rfl⟩

theorem compileFile_outcome (name : String) (text : Except ReadError String) (minified : Bool) :
    (∃ template : TemplateClass, compileFile name text minified =
        ⟨[.documentCompiled template.name template.fieldNames minified], .ok template⟩) ∨
      ∃ error, compileFile name text minified = ⟨[], .error error⟩ := by
  rw [compileFile]
  cases className name with
  | error error => exact .inr ⟨_, rfl⟩
  | ok own =>
      cases text with
      | error error => exact .inr ⟨_, rfl⟩
      | ok document =>
          have rest : (do
              let name ← Run.ofExcept ((Except.ok own).mapError ConversionError.fileName)
              let document ← Run.ofExcept ((Except.ok document).mapError ConversionError.reading)
              (compileTemplate document name minified).mapError ConversionError.header) =
                (compileTemplate document own minified).mapError ConversionError.header := rfl
          rw [rest]
          rcases compileTemplate_outcome document own minified with ⟨template, same⟩ | ⟨error, same⟩
          · exact .inl ⟨template, by rw [same]; rfl⟩
          · exact .inr ⟨.header error, by rw [same]; rfl⟩

namespace Assembly

/-! ## Turns -/

/-- What a traversal that has come to a directory at `start` does when it meets an entry of it or
below it, but for the scopes. -/
def Plan.turn (plan : Plan) (start : List String) (visit : Visit) : Run ConversionError Unit :=
  if plan.excludes (start ++ visit.place) visit.entry then
    Run.report (.entrySkipped (plan.pathOf (start ++ visit.place)).toString)
  else
    match visit.entry with
    | .file bytes =>
        (compileFile visit.name (FileTree.decodeText bytes) plan.minified).trace
    | .directory _ =>
        Run.report (.scopeEntered (plan.pathOf (start ++ visit.place)).toString
          (some (stemOf visit.name)))

theorem turn_under (plan : Plan) (start : List String) (name : String) (visit : Visit) :
    plan.turn start (visit.under name) = plan.turn (start ++ [name]) visit := by
  have same : start ++ (visit.under name).place = start ++ [name] ++ visit.place := by
    simp [Visit.under, Visit.place]
  rw [Plan.turn, Plan.turn, same]
  rfl

theorem addEntry_directory_eq (plan : Plan) (place : List String) (name : String) (scope : Scope)
    (entries : List (String × Entry)) :
    addEntry plan (place ++ [name]) scope (.directory entries) = (do
      Run.report (.scopeEntered (plan.pathOf (place ++ [name])).toString
        (scope.childOrNew (stemOf name)).name)
      let child ← addEntries plan (place ++ [name]) (scope.childOrNew (stemOf name)) entries
      return scope.enter (stemOf name) child) := by
  simp only [addEntry, Plan.stem_pathOf, Scope.child?_withChild, if_true, Option.getD_some]
  rfl

mutual

/-- Scopes are named as they were after entries have been added. -/
theorem addEntries_named (plan : Plan) (place : List String) :
    (entries : List (String × Entry)) → ∀ scope after : Scope, scope.IsNamed →
      (addEntries plan place scope entries).result = .ok after →
        after.IsNamed ∧ after.name = scope.name
  | [] => by
      intro scope after named added
      rw [addEntries] at added
      cases added
      exact ⟨named, rfl⟩
  | (name, entry) :: later => by
      intro scope after named added
      by_cases admitted : plan.admits (place ++ [name]) entry
      · rcases addEntries_admitted_eq_ok admitted added with ⟨middle, first, others⟩
        rcases addEntry_named plan place name entry scope middle named first with ⟨middleNamed, same⟩
        rcases addEntries_named plan place later middle after middleNamed others with ⟨afterNamed, sameToo⟩
        exact ⟨afterNamed, sameToo.trans same⟩
      · rw [addEntries_skipped admitted] at added
        exact addEntries_named plan place later scope after named added

theorem addEntry_named (plan : Plan) (place : List String) (name : String) :
    (entry : Entry) → ∀ scope after : Scope, scope.IsNamed →
      (addEntry plan (place ++ [name]) scope entry).result = .ok after →
        after.IsNamed ∧ after.name = scope.name
  | .file bytes => by
      intro scope after named added
      rw [addEntry] at added
      rcases Run.bind_result_eq_ok added with ⟨template, _, last⟩
      cases last
      exact ⟨(Scope.Extends.add scope template).named named, rfl⟩
  | .directory entries => by
      intro scope after named added
      rw [addEntry_directory_eq] at added
      rcases Run.bind_result_eq_ok added with ⟨_, _, entered⟩
      rcases Run.bind_result_eq_ok entered with ⟨child, below, last⟩
      cases last
      have entered := Scope.isNamed_childOrNew named (stemOf name)
      rcases addEntries_named plan (place ++ [name]) entries _ child entered below with
        ⟨childNamed, same⟩
      refine ⟨Scope.isNamed_enter named childNamed ?_, Scope.name_enter _ _ _⟩
      rw [same, Scope.name_childOrNew named]

end

mutual

/-- A traversal does nothing but one turn after the other. -/
theorem addEntries_trace (plan : Plan) (place : List String) :
    (entries : List (String × Entry)) → ∀ scope : Scope, scope.IsNamed →
      (addEntries plan place scope entries).trace =
        forM (meetingsIn plan place entries) (plan.turn place)
  | [] => by
      intro scope _
      rw [addEntries, meetingsIn]
      rfl
  | (name, entry) :: later => by
      intro scope named
      have after := addEntries_trace plan place later
      rw [addEntries, meetingsIn]
      by_cases ignored : isIgnoreFile (place ++ [name])
      · simp only [if_pos ignored]
        exact after scope named
      simp only [if_neg ignored]
      by_cases excluded : plan.excludes (place ++ [name]) entry
      · have own : plan.turn place ⟨[], name, entry⟩ =
            Run.report (.entrySkipped (plan.pathOf (place ++ [name])).toString) :=
          if_pos excluded
        rw [if_pos excluded, if_pos excluded, List.forM_cons, own, Run.trace_bind]
        exact congrArg _ (funext fun _ => after scope named)
      · have own := addEntry_trace plan place name entry excluded scope named
        rw [if_neg excluded, if_neg excluded, List.cons_append, List.forM_cons, List.forM_append,
          List.forM_map, Run.trace_bind, ← bind_assoc]
        simp only [turn_under]
        rw [← own, ← Run.bind_const]
        apply Run.bind_congr_ok
        intro middle added
        exact after middle (addEntry_named plan place name entry scope middle named added).1

/-- An entry that is taken up has its turn before what is below it. -/
theorem addEntry_trace (plan : Plan) (place : List String) (name : String) :
    (entry : Entry) → ¬ plan.excludes (place ++ [name]) entry → ∀ scope : Scope, scope.IsNamed →
      (addEntry plan (place ++ [name]) scope entry).trace = (do
        plan.turn place ⟨[], name, entry⟩
        forM (meetingsBelow plan (place ++ [name]) entry) (plan.turn (place ++ [name])))
  | .file bytes => by
      intro kept scope _
      have own : plan.turn place ⟨[], name, .file bytes⟩ =
          (compileFile name (FileTree.decodeText bytes) plan.minified).trace :=
        if_neg kept
      rw [addEntry, meetingsBelow, List.forM_nil, own]
      simp only [Plan.name_pathOf, Run.trace_bind_pure]
      exact (Run.bind_pure_self _).symm
  | .directory entries => by
      intro kept scope named
      have own : plan.turn place ⟨[], name, .directory entries⟩ =
          Run.report (.scopeEntered (plan.pathOf (place ++ [name])).toString
            (some (stemOf name))) :=
        if_neg kept
      have below := addEntries_trace plan (place ++ [name]) entries _
        (Scope.isNamed_childOrNew named (stemOf name))
      rw [addEntry_directory_eq, meetingsBelow, own, Scope.name_childOrNew named, Run.trace_bind]
      simp only [Run.trace_bind_pure, below]

end

end Assembly

end Stencil
