import Stencil.Proofs.ClassSource.Rendering

/-!
Classes found by their names. Where the names in each scope are told apart when they are compared,
the source of a tree of scopes runs if each of its templates does, a chain of names leads to the
class of each template, and its instances render as those of the template alone.
-/

namespace Stencil

namespace Scope

/-! ## Names told apart -/

/-- The names of the classes and of the children of a scope. -/
def memberNames (scope : Scope) : List String := scope.types.map (·.name) ++ scope.childNames

/-- In the given form, the names of the members of a scope are distinct, and none is private. -/
structure IsSeparate (scope : Scope) (form : String → String) : Prop where
  distinct : (scope.memberNames.map form).Nodup
  notPrivate : ∀ name ∈ scope.memberNames, (form name).startsWith "__" = false

instance (scope : Scope) (form : String → String) : Decidable (scope.IsSeparate form) :=
  decidable_of_iff ((scope.memberNames.map form).Nodup ∧
      ∀ name ∈ scope.memberNames, (form name).startsWith "__" = false)
    ⟨fun both => ⟨both.1, both.2⟩, fun separate => ⟨separate.distinct, separate.notPrivate⟩⟩

/-- The names in each scope of the tree are told apart in the given form. -/
def IsCollisionFree (scope : Scope) (form : String → String) : Prop :=
  ∀ chain inner, (chain, inner) ∈ scope.walk → inner.IsSeparate form

instance (scope : Scope) (form : String → String) : Decidable (scope.IsCollisionFree form) :=
  decidable_of_iff (∀ pair ∈ scope.walk, pair.2.IsSeparate form)
    ⟨fun each chain inner walked => each (chain, inner) walked,
      fun free pair walked => free pair.1 pair.2 walked⟩

namespace IsCollisionFree

variable {scope : Scope} {form : String → String}

theorem own (free : scope.IsCollisionFree form) : scope.IsSeparate form :=
  free [] scope (mem_walk.mpr (.inl ⟨rfl, rfl⟩))

theorem child (free : scope.IsCollisionFree form) {name : String} {inner : Scope}
    (member : (name, inner) ∈ scope.children) : inner.IsCollisionFree form := by
  intro chain further walked
  apply free (name :: chain)
  exact mem_walk.mpr (.inr ⟨name, inner, chain, member, walked, rfl⟩)

end IsCollisionFree

end Scope

/-! ## Following names -/

/-- The class of a name that is looked up in the scope to which the names above lead. -/
def follow? (name : String) (members : List (String × LoadedClass)) :
    List String → Option LoadedClass
  | [] => boundTo? name members
  | first :: later =>
      match boundTo? first members with
      | some (.scope _ inner) => follow? name inner later
      | _ => none

theorem boundTo?_of_mem {name : String} {loaded : LoadedClass}
    {members : List (String × LoadedClass)} (distinct : (members.map (·.1)).Nodup)
    (member : (name, loaded) ∈ members) : boundTo? name members = some loaded := by
  apply find?_of_mem
  · rw [List.map_reverse, List.nodup_reverse]
    exact distinct
  · exact List.mem_reverse.mpr member

theorem privateName_eq {owner name : String} (notPrivate : name.startsWith "__" = false) :
    privateName owner name = name := by
  simp [privateName, notPrivate]

theorem loadTemplate_name (around : String) (template : TemplateClass) :
    (loadTemplate around template).name = sourceName template.name := by
  simp only [loadTemplate]

theorem loadTemplate_fields (around : String) (template : TemplateClass) :
    (loadTemplate around template).fields =
      template.fields.map (loadField (sourceName template.name)) := by
  simp only [loadTemplate]

theorem loadTemplate_body (around : String) (template : TemplateClass) :
    (loadTemplate around template).body = template.body := by
  simp only [loadTemplate]

theorem innerName_loadTemplate (around : String) (template : TemplateClass) (name : List Char) :
    (loadTemplate around template).innerName name =
      privateName (sourceName template.name) (Compatibility.normalForm (.ofList name)) := by
  rw [LoadedTemplate.innerName, loadTemplate_name]

theorem loadChildren_eq (around : String) (children : List (String × Scope)) :
    loadChildren around children = children.map fun (childName, child) =>
      (sourceName childName, .scope (sourceName childName)
        ((loadMembers (qualify around (sourceName childName)) child).map fun (member, loaded) =>
          (privateName (sourceName childName) member, loaded))) := by
  induction children with
  | nil => rfl
  | cons head tail induction => rw [loadChildren, induction, List.map_cons]

theorem loadMembers_eq (around : String) (scope : Scope) :
    loadMembers around scope = (scope.types.map fun template =>
        (sourceName template.name, .template (loadTemplate around template))) ++
      loadChildren around scope.children := by
  rcases scope with ⟨name, types, children⟩
  simp only [loadMembers, loadTemplate_name]

theorem map_fst_loadMembers (around : String) (scope : Scope) :
    (loadMembers around scope).map (·.1) = scope.memberNames.map sourceName := by
  rw [loadMembers_eq, loadChildren_eq, List.map_append, List.map_map, List.map_map]
  simp [Scope.memberNames, Scope.childNames, Function.comp_def]

theorem nodup_loadMembers {scope : Scope} (separate : scope.IsSeparate sourceName)
    (around : String) : ((loadMembers around scope).map (·.1)).Nodup := by
  rw [map_fst_loadMembers]
  exact separate.distinct

/-- Inside a class, members that are not private have the names that they have at the top. -/
theorem map_privateName_loadMembers {scope : Scope} (separate : scope.IsSeparate sourceName)
    (owner around : String) :
    ((loadMembers around scope).map fun (member, loaded) => (privateName owner member, loaded)) =
      loadMembers around scope := by
  have unchanged : ∀ pair ∈ loadMembers around scope,
      (privateName owner pair.1, pair.2) = pair := by
    intro pair member
    have listed : pair.1 ∈ (loadMembers around scope).map (·.1) := List.mem_map_of_mem member
    rw [map_fst_loadMembers] at listed
    rcases List.mem_map.mp listed with ⟨name, inside, equal⟩
    rw [privateName_eq (equal ▸ separate.notPrivate name inside)]
  rw [List.map_congr_left unchanged, List.map_id']

/-- The names of the scopes and of a class lead to it. -/
theorem follow?_loadMembers {scope inner : Scope} {chain : List String} {template : TemplateClass}
    (free : scope.IsCollisionFree sourceName) (reached : scope.at? chain = some inner)
    (member : template ∈ inner.types) (around : String) :
    ∃ qualifier, follow? (sourceName template.name) (loadMembers around scope)
      (chain.map sourceName) = some (.template (loadTemplate qualifier template)) := by
  induction chain generalizing scope around with
  | nil =>
      cases reached
      refine ⟨around, boundTo?_of_mem (nodup_loadMembers free.own around) ?_⟩
      rw [loadMembers_eq]
      exact List.mem_append_left _ (List.mem_map.mpr ⟨template, member, rfl⟩)
  | cons name later induction =>
      rcases Option.bind_eq_some_iff.mp reached with ⟨child, found, further⟩
      have listed := Scope.mem_of_child? found
      have freeToo := free.child listed
      have below : (sourceName name, .scope (sourceName name)
          (loadMembers (qualify around (sourceName name)) child)) ∈ loadMembers around scope := by
        rw [loadMembers_eq, loadChildren_eq]
        apply List.mem_append_right
        refine List.mem_map.mpr ⟨(name, child), listed, ?_⟩
        simp only [map_privateName_loadMembers freeToo.own]
      have bound := boundTo?_of_mem (nodup_loadMembers free.own around) below
      rcases induction freeToo further (qualify around (sourceName name)) with
        ⟨qualifier, result⟩
      refine ⟨qualifier, ?_⟩
      rw [List.map_cons, follow?, bound]
      exact result

/-! ## Loading -/

theorem loadModule_eq_ok_iff {scope : Scope} {classes : List (String × LoadedClass)} :
    loadModule scope = .ok classes ↔ loadError? scope = none ∧ classes = loadMembers "" scope := by
  rw [loadModule]
  cases loadError? scope with
  | some error => simp
  | none => simp [eq_comm]

theorem loadError?_eq_none_iff {scope : Scope} :
    loadError? scope = none ↔ sourceError? scope = none ∧
      (∀ template ∈ templatesOf scope, duplicateParameter? template = none) ∧
      (∀ name ∈ boundNames scope, bindsConstant name = false) ∧
      ∀ template ∈ templatesOf scope, conflictingSlot? template = none := by
  have constants : (∀ name ∈ boundNames scope, bindsConstant name = false) ↔
      (boundNames scope).any bindsConstant = false := by simp
  rw [loadError?, ← List.findSome?_eq_none_iff, ← List.findSome?_eq_none_iff, constants]
  cases sourceError? scope with
  | some error => simp
  | none =>
      cases (templatesOf scope).findSome? duplicateParameter? with
      | some name => simp
      | none =>
          cases (boundNames scope).any bindsConstant with
          | true => simp
          | false => simp only [Bool.false_eq_true, if_false, Option.map_eq_none_iff, true_and]

theorem boundNames_eq (scope : Scope) :
    boundNames scope = (scope.walk.flatMap fun (_, inner) => inner.childNames) ++
      (templatesOf scope).flatMap fun template => template.name :: template.fieldNames := rfl

/-- The source of a tree loads if it is accepted, if the source of each template loads, and if the
names in each scope are told apart. -/
theorem loadError?_eq_none {scope : Scope} (accepted : sourceError? scope = none)
    (free : scope.IsCollisionFree sourceName)
    (alone : ∀ template ∈ templatesOf scope, loadError? (.ofTemplate template) = none) :
    loadError? scope = none := by
  have each (template : TemplateClass) (listed : template ∈ templatesOf scope) :
      duplicateParameter? template = none ∧
        (∀ name ∈ template.name :: template.fieldNames, bindsConstant name = false) ∧
        conflictingSlot? template = none := by
    have parts := loadError?_eq_none_iff.mp (alone template listed)
    rw [templatesOf_ofTemplate, boundNames_ofTemplate] at parts
    exact ⟨parts.2.1 template (List.mem_singleton_self template), parts.2.2.1,
      parts.2.2.2 template (List.mem_singleton_self template)⟩
  refine loadError?_eq_none_iff.mpr ⟨accepted, fun template listed => (each template listed).1, ?_,
    fun template listed => (each template listed).2.2⟩
  intro name bound
  rw [boundNames_eq] at bound
  rcases List.mem_append.mp bound with inChildren | inTemplates
  · rcases List.mem_flatMap.mp inChildren with ⟨⟨chain, inner⟩, walked, listed⟩
    have member : name ∈ inner.memberNames := List.mem_append_right _ listed
    have notPrivate := (free chain inner walked).notPrivate name member
    have different : sourceName name ≠ constantName := by
      intro equal
      rw [equal] at notPrivate
      exact absurd notPrivate (by decide +kernel)
    simpa [bindsConstant] using different
  · rcases List.mem_flatMap.mp inTemplates with ⟨template, listed, inside⟩
    exact (each template listed).2.1 name inside

/-! ## Rendering -/

theorem Piece.fill_congr {first second : List Char → Option (List Char)} {pieces : List Piece}
    (same : ∀ name, .field name ∈ pieces → first name = second name) :
    Piece.fill first pieces = Piece.fill second pieces := by
  induction pieces with
  | nil => rfl
  | cons piece pieces induction =>
      have later := induction fun name member => same name (List.mem_cons_of_mem _ member)
      cases piece with
      | character c => rw [Piece.fill, Piece.fill, later]
      | field name => rw [Piece.fill, Piece.fill, later, same name List.mem_cons_self]

/-- A class differs with the classes around it only in its qualified name. -/
theorem loadTemplate_qualified (around other : String) (template : TemplateClass) :
    { loadTemplate around template with qualified := (loadTemplate other template).qualified } =
      loadTemplate other template := by
  simp only [loadTemplate]

/-- The names that the fields of a class have inside it. -/
def fieldForms (template : TemplateClass) : List String :=
  template.fields.map fun field => privateName (sourceName template.name) (sourceName field.name)

section Rendering

variable {template : TemplateClass} {arguments : List Argument}
  (count : arguments.length = template.fields.length)

include count

theorem bindArguments_loadTemplate (around : String) :
    (loadTemplate around template).bindArguments arguments =
      .ok ((fieldForms template).zip arguments) := by
  have names : (loadTemplate around template).fields.map (·.name) = fieldForms template := by
    simp [loadTemplate, fieldForms, loadField, Function.comp_def]
  have length : (fieldForms template).length = arguments.length := by simp [fieldForms, count]
  simp [LoadedTemplate.bindArguments, names, length]

/-- With the right number of arguments, an instance does not depend on where its class is. -/
theorem construct_congr (around other : String) :
    (loadTemplate around template).construct arguments =
      (loadTemplate other template).construct arguments := by
  simp only [LoadedTemplate.construct, LoadedTemplate.slots, bindArguments_loadTemplate count,
    loadTemplate_name, loadTemplate_fields]

theorem construct_eq_ok {around : String} {values : List (String × Argument)}
    (made : (loadTemplate around template).construct arguments = .ok values) :
    values = (fieldForms template).zip arguments := by
  rw [LoadedTemplate.construct, bindArguments_loadTemplate count] at made
  simp only [bind, Except.bind] at made
  split at made
  · cases made
  · split at made
    · cases made
    · exact (Except.ok.inj made).symm

/-- A declared field has a value under the name that a reference to it has. -/
theorem isSome_find?_reference {field : Field} {reference : List Char} (around : String)
    (member : field ∈ template.fields)
    (same : toIdentifier field.name = toIdentifier (.ofList reference)) :
    (((fieldForms template).zip arguments).find?
      (·.1 == (loadTemplate around template).innerName (Identifier.quote reference))).isSome := by
  have quoted : String.ofList (Identifier.quote reference) = toIdentifier (.ofList reference) := by
    rw [toIdentifier, String.toList_ofList]
  have form : (loadTemplate around template).innerName (Identifier.quote reference) =
      privateName (sourceName template.name) (sourceName field.name) := by
    rw [innerName_loadTemplate, quoted, ← same, ← sourceName]
  have names : ((fieldForms template).zip arguments).map Prod.fst = fieldForms template :=
    List.map_fst_zip (by simp [fieldForms, count])
  have listed : privateName (sourceName template.name) (sourceName field.name) ∈
      ((fieldForms template).zip arguments).map Prod.fst := by
    rw [names]
    exact List.mem_map.mpr ⟨field, member, rfl⟩
  rcases List.mem_map.mp listed with ⟨pair, inside, equal⟩
  rw [form, List.find?_isSome]
  exact ⟨pair, inside, beq_iff_eq.mpr equal⟩

variable {text : String} {scan : List Piece} (body : template.body = substitute text)
  (scanned : Placeholder.Scan text.toList scan)
  (declared : ∀ reference, .field reference ∈ scan →
    ∃ field ∈ template.fields, toIdentifier field.name = toIdentifier (.ofList reference))

include body scanned declared

theorem fill_congr (around other : String) (members others : List (String × LoadedClass)) :
    (loadTemplate around template).fill members ((fieldForms template).zip arguments) =
      (loadTemplate other template).fill others ((fieldForms template).zip arguments) := by
  have read (around : String) :
      BodyLiteral.read? (bodyLiteral (loadTemplate around template).body).toList =
        some (scan.map Piece.quoteName) := by
    rw [loadTemplate_body, body, read?_substitute_scan scanned]
  have shown : ∀ name, .field name ∈ scan.map Piece.quoteName →
      ((loadTemplate around template).shown? members ((fieldForms template).zip arguments)
          ((loadTemplate around template).innerName name)).map String.toList =
        ((loadTemplate other template).shown? others ((fieldForms template).zip arguments)
          ((loadTemplate other template).innerName name)).map String.toList := by
    intro name member
    rcases List.mem_map.mp member with ⟨piece, listed, equal⟩
    cases piece with
    | character c => cases equal
    | field reference =>
        cases equal
        rcases declared reference listed with ⟨field, inFields, same⟩
        have found := isSome_find?_reference count around inFields same
        rcases Option.isSome_iff_exists.mp found with ⟨pair, located⟩
        have inner : (loadTemplate other template).innerName (Identifier.quote reference) =
            (loadTemplate around template).innerName (Identifier.quote reference) := by
          rw [innerName_loadTemplate, innerName_loadTemplate]
        rw [inner, LoadedTemplate.shown?, LoadedTemplate.shown?, located]
  simp only [LoadedTemplate.fill, read]
  rw [Piece.fill_congr shown]
  simp only [innerName_loadTemplate]

/-- If all references are declared, rendering does not depend on where the class is. -/
theorem render_congr (around other : String) (members others : List (String × LoadedClass)) :
    (loadTemplate around template).render members arguments =
      (loadTemplate other template).render others arguments := by
  rw [LoadedTemplate.render, LoadedTemplate.render, construct_congr count around other]
  cases made : (loadTemplate other template).construct arguments with
  | error error => rfl
  | ok values =>
      rw [construct_eq_ok count made]
      simp only [bind, Except.bind, LoadedTemplate.slots, loadTemplate_fields,
        fill_congr count body scanned declared around other members others]

end Rendering

end Stencil
