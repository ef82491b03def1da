import Stencil.Proofs.ClassSource.Lookup
import Stencil.Proofs.Conversion
import Stencil.Proofs.Minify.Reference

/-!
References that no field declares. Inside a class a reference goes by a form of its own, and what is
bound to that form is shown in its place, whoever has bound it. So rendering fails at an undeclared
reference just if the language has bound nothing to its form either.
-/

namespace Stencil

/-! ## The first reference without a value -/

/-- Filling fails at the first name without a value, and only there. -/
theorem Piece.find?_of_fill (value? : List Char → Option (List Char)) (pieces : List Piece) :
    (pieces.filterMap Piece.name?).find? (fun name => (value? name).isNone) =
      match Piece.fill value? pieces with
      | .error name => some name
      | .ok _ => none := by
  induction pieces with
  | nil => rfl
  | cons piece later induction =>
      cases piece with
      | character c =>
          rw [List.filterMap_cons, Piece.fill]
          simp only [Piece.name?, induction]
          cases Piece.fill value? later <;> rfl
      | field name =>
          rw [List.filterMap_cons, Piece.fill]
          simp only [Piece.name?, List.find?_cons]
          cases value? name with
          | none => rfl
          | some value =>
              simp only [Option.isNone_some, induction]
              cases Piece.fill value? later <;> rfl

/-! ## What a reference finds -/

/-- Whether a reference is to one of the fields. -/
def IsDeclared (fields : List Field) (reference : List Char) : Prop :=
  ∃ field ∈ fields, toIdentifier field.name = toIdentifier (.ofList reference)

instance (fields : List Field) (reference : List Char) : Decidable (IsDeclared fields reference) :=
  inferInstanceAs (Decidable (∃ field ∈ fields, _))

/-- The form of a name inside the class `name`. -/
def innerForm (name given : String) : String :=
  privateName (sourceName name) (sourceName given)

/-- Whether something is bound to a form inside the class `name`: a field, the class under either of
its names, or what the language binds everywhere. -/
def IsBound (name : String) (fields : List Field) (form : String) : Prop :=
  (∃ field ∈ fields, innerForm name field.name = form) ∨ form = "__class__" ∨
    form = sourceName name ∨ (Builtin.text? form).isSome = true

instance (name : String) (fields : List Field) (form : String) :
    Decidable (IsBound name fields form) :=
  inferInstanceAs (Decidable (_ ∨ _ ∨ _ ∨ _))

theorem isBound_of_isDeclared {name : String} {fields : List Field} {reference : List Char}
    (declared : IsDeclared fields reference) :
    IsBound name fields (innerForm name (.ofList reference)) := by
  rcases declared with ⟨field, member, same⟩
  have form : innerForm name field.name = innerForm name (.ofList reference) := by
    simp only [innerForm, sourceName, same]
  exact .inl ⟨field, member, form⟩

section Rendering

variable {template : TemplateClass} {arguments : List Argument}
  {values : List (String × Argument)}

theorem innerName_quote (around : String) (reference : List Char) :
    (loadTemplate around template).innerName (Identifier.quote reference) =
      innerForm template.name (.ofList reference) := by
  rw [innerName_loadTemplate, innerForm, sourceName, sourceName, toIdentifier, toIdentifier,
    String.toList_ofList]

theorem length_of_construct {around : String}
    (made : (loadTemplate around template).construct arguments = .ok values) :
    arguments.length = template.fields.length := by
  have bound : ((loadTemplate around template).bindArguments arguments).isOk = true := by
    rw [LoadedTemplate.construct] at made
    cases given : (loadTemplate around template).bindArguments arguments with
    | ok _ => rfl
    | error error =>
        simp only [given, bind, Except.bind] at made
        split at made <;> cases made
  rw [LoadedTemplate.bindArguments] at bound
  split at bound
  · cases bound
  split at bound
  · cases bound
  · rename_i notMore notLess
    rw [loadTemplate_fields, List.length_map, List.length_map] at notMore notLess
    omega

/-- The value of a form is shown just if something is bound to the form. -/
theorem isSome_shown?_iff (count : arguments.length = template.fields.length) {form : String} :
    ((loadTemplate "" template).shown? (loadMembers "" (.ofTemplate template))
        ((fieldForms template).zip arguments) form).isSome = true ↔
      IsBound template.name template.fields form := by
  have isField : (((fieldForms template).zip arguments).find? (·.1 == form)).isSome = true ↔
      ∃ field ∈ template.fields, innerForm template.name field.name = form := by
    have names : ((fieldForms template).zip arguments).map Prod.fst = fieldForms template :=
      List.map_fst_zip (by simp [fieldForms, count])
    have listed : (∃ pair ∈ (fieldForms template).zip arguments, (pair.1 == form) = true) ↔
        form ∈ fieldForms template := by
      conv_rhs => rw [← names, List.mem_map]
      simp
    rw [List.find?_isSome, listed, fieldForms, List.mem_map]
    rfl
  have isClass : (boundTo? form (loadMembers "" (.ofTemplate template))).isSome = true ↔
      form = sourceName template.name := by
    rw [loadMembers_ofTemplate, boundTo?, Option.isSome_map, List.find?_isSome,
      List.reverse_singleton]
    simp only [List.mem_singleton, exists_eq_left, beq_iff_eq]
    exact eq_comm
  rw [IsBound, ← isField, ← isClass, LoadedTemplate.shown?]
  cases ((fieldForms template).zip arguments).find? (·.1 == form) with
  | some pair => simp
  | none =>
      by_cases enclosing : form = "__class__"
      · simp [enclosing]
      · cases boundTo? form (loadMembers "" (.ofTemplate template)) <;> simp [enclosing]

/-- The first reference to whose form nothing is bound. -/
def firstUnbound? (name : String) (fields : List Field) (references : List (List Char)) :
    Option (List Char) :=
  references.find? fun reference => ¬ IsBound name fields (innerForm name (.ofList reference))

theorem firstUnbound?_eq_none_iff {name : String} {fields : List Field}
    {references : List (List Char)} :
    firstUnbound? name fields references = none ↔
      ∀ reference ∈ references, ¬ IsDeclared fields reference →
        IsBound name fields (innerForm name (.ofList reference)) := by
  rw [firstUnbound?, List.find?_eq_none]
  simp only [decide_eq_true_eq, not_not]
  constructor
  · exact fun bound reference member _ => bound reference member
  · intro bound reference member
    by_cases declared : IsDeclared fields reference
    · exact isBound_of_isDeclared declared
    · exact bound reference member declared

/-- If nothing is bound to the form of the first undeclared reference, there is no earlier one of
that kind, for declared ones are bound. -/
theorem firstUnbound?_of_undeclared {name : String} {fields : List Field}
    {references : List (List Char)} {first : List Char}
    (undeclared : references.find? (fun reference => ¬ IsDeclared fields reference) = some first)
    (unbound : ¬ IsBound name fields (innerForm name (.ofList first))) :
    firstUnbound? name fields references = some first := by
  rw [List.find?_eq_some_iff_append] at undeclared
  rcases undeclared with ⟨_, earlier, later, same, declared⟩
  rw [firstUnbound?, List.find?_eq_some_iff_append]
  refine ⟨by simpa using unbound, earlier, later, same, ?_⟩
  intro reference member
  have isDeclared : IsDeclared fields reference := by simpa using declared reference member
  simpa using isBound_of_isDeclared isDeclared

/-- Filling a body fails at its first reference to whose form nothing is bound. -/
theorem fill_ofTemplate {text : String} (body : template.body = substitute text)
    (count : arguments.length = template.fields.length) :
    match firstUnbound? template.name template.fields (Placeholder.references text.toList) with
    | some reference =>
        (loadTemplate "" template).fill (loadMembers "" (.ofTemplate template))
            ((fieldForms template).zip arguments) =
          .error (.unboundName (innerForm template.name (.ofList reference)))
    | none => ∃ filled, (loadTemplate "" template).fill (loadMembers "" (.ofTemplate template))
        ((fieldForms template).zip arguments) = .ok filled := by
  have read : BodyLiteral.read? (bodyLiteral (loadTemplate "" template).body).toList =
      some ((Placeholder.pieces text.toList).map Piece.quoteName) := by
    rw [loadTemplate_body, body, read?_substitute_scan (Placeholder.scan_pieces _)]
  let value? (name : List Char) : Option (List Char) :=
    ((loadTemplate "" template).shown? (loadMembers "" (.ofTemplate template))
      ((fieldForms template).zip arguments) ((loadTemplate "" template).innerName name)).map
        String.toList
  have unbound (reference : List Char) : (value? (Identifier.quote reference)).isNone =
      decide (¬ IsBound template.name template.fields
        (innerForm template.name (.ofList reference))) := by
    rw [Bool.eq_iff_iff, decide_eq_true_iff, ← isSome_shown?_iff count, Option.isNone_map,
      innerName_quote, Option.isNone_iff_eq_none, Option.not_isSome_iff_eq_none]
  have first := Piece.find?_of_fill value? ((Placeholder.pieces text.toList).map Piece.quoteName)
  rw [filterMap_name?_quoteName, List.find?_map] at first
  simp only [Function.comp_def, unbound] at first
  rw [← firstUnbound?, ← Placeholder.references] at first
  rw [LoadedTemplate.fill, read]
  cases filled : Piece.fill value? ((Placeholder.pieces text.toList).map Piece.quoteName) with
  | error name =>
      rw [filled] at first
      rcases Option.map_eq_some_iff.mp first with ⟨reference, found, rfl⟩
      rw [found]
      simp only [value?] at filled
      simp only [filled, innerName_quote]
  | ok text =>
      rw [filled] at first
      rw [Option.map_eq_none_iff.mp first]
      simp only [value?] at filled
      refine ⟨.ofList text, ?_⟩
      simp only [filled]

/-- A slot by the name of the method that looks attributes up is a field of that very name. -/
theorem mem_slots_iff {around : String} :
    "__getattribute__" ∈ (loadTemplate around template).slots ↔
      ∃ field ∈ template.fields, toIdentifier field.name = "__getattribute__" := by
  have same (name : String) : privateName (sourceName template.name) name = "__getattribute__" ↔
      name = "__getattribute__" := by
    constructor
    · intro equal
      rcases privateName_cases (sourceName template.name) name with kept | ⟨c, rest, first, text⟩
      · exact kept ▸ equal
      · rw [equal] at text
        exact absurd (List.cons.inj (List.cons.inj text).2).1.symm first
    · rintro rfl
      have special : "__getattribute__".endsWith "__" = true := by decide +kernel
      simp [privateName, special]
  simp only [LoadedTemplate.slots, loadTemplate_fields, List.map_map, List.mem_map,
    Function.comp_apply, loadField, same]

/-- Rendering fills the body, unless attributes cannot be looked up. -/
theorem render_eq_fill {around : String} {members : List (String × LoadedClass)}
    (made : (loadTemplate around template).construct arguments = .ok values)
    (reachable : "__getattribute__" ∉ (loadTemplate around template).slots) :
    (loadTemplate around template).render members arguments =
      (loadTemplate around template).fill members values := by
  have missing : ((loadTemplate around template).slots.zip arguments).find?
      (·.1 == "__getattribute__") = none := by
    rw [List.find?_eq_none]
    intro pair member named
    exact reachable (eq_of_beq named ▸ (List.of_mem_zip member).1)
  rw [LoadedTemplate.render, made]
  simp only [bind, Except.bind, missing]

theorem render_eq_notCallable {around : String} {members : List (String × LoadedClass)}
    (made : (loadTemplate around template).construct arguments = .ok values)
    (unreachable : "__getattribute__" ∈ (loadTemplate around template).slots) :
    ∃ kind, (loadTemplate around template).render members arguments =
      .error (.notCallable kind) := by
  have count := length_of_construct made
  have found : (((loadTemplate around template).slots.zip arguments).find?
      (·.1 == "__getattribute__")).isSome = true := by
    have names : ((loadTemplate around template).slots.zip arguments).map Prod.fst =
        (loadTemplate around template).slots :=
      List.map_fst_zip (by simp [LoadedTemplate.slots, loadTemplate_fields, count])
    rw [← names, List.mem_map] at unreachable
    simpa [List.find?_isSome] using unreachable
  rw [LoadedTemplate.render, made]
  rcases Option.isSome_iff_exists.mp found with ⟨⟨slot, value⟩, located⟩
  exact ⟨value.kind, by simp only [bind, Except.bind, located]⟩

end Rendering

/-! ## Documents -/

theorem emitScope_source {scope : Scope} {validated : Bool} {source : String}
    (ok : (emitScope scope validated).result = .ok source) : source = moduleSource scope := by
  rw [emitScope] at ok
  rcases Run.bind_result_eq_ok ok with ⟨emitted, checked, rest⟩
  cases rest
  have accepted : emitModule scope validated = .ok source :=
    Run.ofExcept_mapError_eq_ok checked
  rw [emitModule.eq_def] at accepted
  split at accepted
  · cases accepted
  · exact (Except.ok.inj accepted).symm

/-- What a document that converts, checked or not, is the source of. -/
theorem convertDocument_source {document filename source : String} {minified validated : Bool}
    (ok : (convertDocument document filename minified validated).result = .ok source) :
    ∃ template : TemplateClass, className filename = .ok template.name ∧
      headerFields document = .ok template.fields ∧
      template.body = substitute (documentBody document minified) ∧
      source = moduleSource (.ofTemplate template) := by
  rcases Run.bind_result_eq_ok ok with ⟨template, compiled, emitted⟩
  rcases documentTemplate_eq_ok compiled with ⟨named, header, body⟩
  exact ⟨template, named, header, body, emitScope_source emitted⟩

/-- The source of a template that nothing keeps from being loaded binds the one class. -/
theorem run?_of_loadError? {template : TemplateClass} (types : Source.HasWordTypes template)
    (free : loadError? (.ofTemplate template) = none) :
    Source.run? (moduleSource (.ofTemplate template)) =
      some (.ok [(sourceName template.name, .template (loadTemplate "" template))]) := by
  rw [Source.run?_moduleSource (Source.hasWordTypes_ofTemplate types), loadModule, free,
    loadMembers_ofTemplate]

/-- A page that refers to a field, to nothing, and to a function of the language. -/
def undeclaringDocument : String := "\x7ba: str\x7d\n<p>\n@a@ @b@</p> @id@"

def undeclaringTemplate : TemplateClass :=
  ⟨"Page", [⟨"a", "str"⟩], "<p>\x7ba\x7d \x7bb\x7d</p> \x7bid\x7d"⟩

end Stencil
