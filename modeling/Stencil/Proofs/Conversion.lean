import Stencil.Proofs.ClassSource.Rendering

/-!
Documents converted. What a conversion that succeeds went through, and what its source means when
it is run.
-/

namespace Stencil

namespace Run

variable {ε δ α β : Type}

theorem bind_result_of_ok {first : Run ε α} {value : α} (ok : first.result = .ok value)
    (next : α → Run ε β) : (first >>= next).result = (next value).result := by
  rw [bind_of_ok ok]

theorem bind_result_eq_ok {first : Run ε α} {next : α → Run ε β} {value : β}
    (ok : (first >>= next).result = .ok value) :
    ∃ middle, first.result = .ok middle ∧ (next middle).result = .ok value := by
  cases found : first.result with
  | error error =>
      rw [bind_of_error found] at ok
      cases ok
  | ok middle =>
      rw [bind_of_ok found] at ok
      exact ⟨middle, rfl, ok⟩

theorem ofExcept_mapError_eq_ok {widen : ε → δ} {result : Except ε α} {value : α}
    (ok : (Run.ofExcept (result.mapError widen)).result = .ok value) : result = .ok value := by
  cases result with
  | error error => cases ok
  | ok other =>
      cases ok
      rfl

theorem mapError_result_eq_ok {widen : ε → δ} {run : Run ε α} {value : α}
    (ok : (run.mapError widen).result = .ok value) : run.result = .ok value := by
  rcases run with ⟨events, result⟩
  cases result with
  | error error => cases ok
  | ok other =>
      cases ok
      rfl

end Run

theorem exists_eq_ok {ε α : Type} {result : Except ε α} (ok : result.isOk = true) :
    ∃ value, result = .ok value := by
  cases result with
  | error error => cases ok
  | ok value => exact ⟨value, rfl⟩

theorem compileTemplate_eq_ok {document name : String} {minified : Bool}
    {template : TemplateClass}
    (ok : (compileTemplate document name minified).result = .ok template) :
    headerFields document = .ok template.fields ∧ template.name = name ∧
      template.body = substitute (documentBody document minified) := by
  rcases Run.bind_result_eq_ok ok with ⟨fields, header, rest⟩
  cases rest
  exact ⟨header, rfl, rfl⟩

theorem documentTemplate_eq_ok {document filename : String} {minified : Bool}
    {template : TemplateClass}
    (ok : (documentTemplate document filename minified).result = .ok template) :
    className filename = .ok template.name ∧ headerFields document = .ok template.fields ∧
      template.body = substitute (documentBody document minified) := by
  rw [documentTemplate] at ok
  rcases Run.bind_result_eq_ok ok with ⟨name, named, rest⟩
  have found : className filename = .ok name := Run.ofExcept_mapError_eq_ok named
  rcases compileTemplate_eq_ok (Run.mapError_result_eq_ok rest) with ⟨header, same, body⟩
  rw [same]
  exact ⟨found, header, body⟩

/-- A checked source is one without an error. -/
theorem emitScope_eq_ok {scope : Scope} {source : String}
    (ok : (emitScope scope true).result = .ok source) :
    sourceError? scope = none ∧ source = moduleSource scope := by
  rw [emitScope] at ok
  rcases Run.bind_result_eq_ok ok with ⟨emitted, checked, rest⟩
  cases rest
  have accepted : emitModule scope true = .ok source := Run.ofExcept_mapError_eq_ok checked
  cases found : sourceError? scope with
  | none =>
      simp only [emitModule, found] at accepted
      exact ⟨rfl, (Except.ok.inj accepted).symm⟩
  | some error =>
      simp only [emitModule, found] at accepted
      cases accepted

/-- The source of a document that converts is the checked source of its one class. -/
theorem convertDocument_eq_ok {document filename source : String} {minified : Bool}
    (ok : (convertDocument document filename minified true).result = .ok source) :
    ∃ template : TemplateClass, className filename = .ok template.name ∧
      headerFields document = .ok template.fields ∧
      template.body = substitute (documentBody document minified) ∧
      sourceError? (.ofTemplate template) = none ∧
      source = moduleSource (.ofTemplate template) := by
  rcases Run.bind_result_eq_ok ok with ⟨template, compiled, emitted⟩
  rcases documentTemplate_eq_ok compiled with ⟨named, header, body⟩
  rcases emitScope_eq_ok emitted with ⟨accepted, equal⟩
  exact ⟨template, named, header, body, accepted, equal⟩

/-! ## What a document means -/

/-- A page whose body has every character that has to be written in another way. -/
def page : String := "\x7ba: str\nclass: int\x7d\n@a@\\\x7b'\"\n@@@class@ @b"

def pageFields : List Field := [⟨"a", "str"⟩, ⟨"class", "int"⟩]

def pageScan : List Piece :=
  .field ['a'] :: "\\\x7b'\"\n@".toList.map .character ++
    .field "class".toList :: " @b".toList.map .character

end Stencil
