import Stencil.Proofs.ClassSource.Nesting

/-!
The running of generated source. The source of a template runs unless the class has the name of a
constant, if the fields have ASCII names that stay apart as names that are private to the class
and none of which means anything special.
-/

namespace Stencil

/-- A name between two pairs of underscores, which the language gives a meaning of its own. -/
def IsSpecial (name : String) : Prop :=
  ∃ inner, inner ≠ [] ∧ name.toList = '_' :: '_' :: (inner ++ ['_', '_'])

/-- Fields whose names in the class `owner` are ASCII, not special and pairwise distinct. -/
structure HasPlainNames (owner : String) (fields : List Field) : Prop where
  ascii : ∀ field ∈ fields, ∀ c ∈ (toIdentifier field.name).toList, Character.IsAscii c
  notSpecial : ∀ field ∈ fields, ¬ IsSpecial (toIdentifier field.name)
  distinct : (fields.map fun field => privateName owner (toIdentifier field.name)).Nodup

/-! ## Private names -/

theorem privateName_cases (owner name : String) :
    privateName owner name = name ∨
      ∃ first rest, first ≠ '_' ∧ (privateName owner name).toList = '_' :: first :: rest := by
  simp only [privateName]
  split
  · rename_i isPrivate
    right
    cases front : owner.toList.dropWhile (· == '_') with
    | nil => simp [front] at isPrivate
    | cons first rest =>
        refine ⟨first, rest ++ name.toList, ?_, by simp⟩
        have head := List.head?_dropWhile_not (· == '_') owner.toList
        rw [front] at head
        simpa using head
  · exact .inl rfl

theorem not_isSpecial_privateName {owner name : String} (notSpecial : ¬ IsSpecial name) :
    ¬ IsSpecial (privateName owner name) := by
  rcases privateName_cases owner name with same | ⟨first, rest, different, text⟩
  · rwa [same]
  · rintro ⟨inner, _, equal⟩
    rw [text] at equal
    exact different (List.cons.inj (List.cons.inj equal).2).1

theorem privateName_ne_self (owner name : String) :
    privateName owner (toIdentifier name) ≠ "self" := by
  intro equal
  rcases privateName_cases owner (toIdentifier name) with same | ⟨first, rest, _, text⟩
  · rw [same] at equal
    have free := (Source.isFit_toIdentifier name).free
    rw [equal] at free
    exact absurd free (by decide +kernel)
  · rw [equal] at text
    exact absurd (List.cons.inj text).1 (by decide)

theorem normalForm_of_ascii {name : String} (ascii : ∀ c ∈ name.toList, Character.IsAscii c) :
    Compatibility.normalForm name = name := by
  have all : name.toList.all (·.toNat < 0x80) = true := by
    simpa [Character.IsAscii] using ascii
  rw [Compatibility.normalForm, if_pos all]

/-! ## Faults -/

theorem firstDuplicate?_eq_none {owner : String} {seen names : List String}
    (unseen : ∀ name ∈ names, privateName owner name ∉ seen)
    (distinct : (names.map (privateName owner)).Nodup) :
    firstDuplicate? owner seen names = none := by
  induction names generalizing seen with
  | nil => rfl
  | cons name names induction =>
      rw [List.map_cons, List.nodup_cons] at distinct
      have first := unseen name List.mem_cons_self
      rw [firstDuplicate?]
      simp only [List.contains_eq_mem, first, decide_false, Bool.false_eq_true, if_false]
      apply induction _ distinct.2
      intro other member inSeen
      rcases List.mem_cons.mp inSeen with equal | inSeen
      · exact distinct.1 (equal ▸ List.mem_map_of_mem member)
      · exact unseen other (List.mem_cons_of_mem _ member) inSeen

theorem boundNames_ofTemplate (template : TemplateClass) :
    boundNames (.ofTemplate template) = template.name :: template.fieldNames := by
  simp [boundNames, templatesOf, Scope.ofTemplate, Scope.empty, Scope.add, Scope.walk,
    Scope.walkChildren]

section Template

variable {template : TemplateClass}
  (plain : HasPlainNames (sourceName template.name) template.fields)

include plain

theorem sourceName_of_plain {field : Field} (member : field ∈ template.fields) :
    sourceName field.name = toIdentifier field.name := by
  rw [sourceName, normalForm_of_ascii (plain.ascii field member)]

theorem loadField_of_plain {field : Field} (member : field ∈ template.fields) :
    loadField (sourceName template.name) field =
      ⟨privateName (sourceName template.name) (toIdentifier field.name),
        privateName (sourceName template.name) (toIdentifier field.name)⟩ := by
  rw [loadField, sourceName_of_plain plain member]

theorem duplicateParameter?_eq_none : duplicateParameter? template = none := by
  have names : template.fieldNames.map sourceName =
      template.fields.map fun field => toIdentifier field.name := by
    rw [TemplateClass.fieldNames, List.map_map]
    apply List.map_congr_left
    intro field member
    rw [Function.comp_apply, sourceName_of_plain plain member]
  rw [duplicateParameter?, names]
  apply firstDuplicate?_eq_none
  · intro name member
    rcases List.mem_map.mp member with ⟨field, _, rfl⟩
    simp [privateName_ne_self]
  · rw [List.map_map, Function.comp_def]
    exact plain.distinct

theorem slots_loadTemplate (around : String) :
    (loadTemplate around template).fields.map (·.slot) = template.fields.map fun field =>
      privateName (sourceName template.name) (toIdentifier field.name) := by
  simp only [loadTemplate, List.map_map]
  apply List.map_congr_left
  intro field member
  rw [Function.comp_apply, loadField_of_plain plain member]

/-- No slot has a special name. -/
theorem not_isSpecial_of_slot {around slot : String}
    (member : slot ∈ (loadTemplate around template).fields.map (·.slot)) : ¬ IsSpecial slot := by
  rw [slots_loadTemplate plain] at member
  rcases List.mem_map.mp member with ⟨field, listed, rfl⟩
  exact not_isSpecial_privateName (plain.notSpecial field listed)

theorem conflictingSlot?_eq_none : conflictingSlot? template = none := by
  apply List.find?_eq_none.mpr
  intro slot member conflicting
  apply not_isSpecial_of_slot plain member
  simp only [Attribute.conflictingSlots, List.contains_eq_mem, List.mem_cons, List.not_mem_nil,
    or_false, decide_eq_true_eq] at conflicting
  rcases conflicting with rfl | rfl
  · exact ⟨"module".toList, by decide, by decide⟩
  · exact ⟨"annotations".toList, by decide, by decide⟩

theorem bindsConstant_field {field : Field} (member : field ∈ template.fields) :
    bindsConstant field.name = false := by
  have different : sourceName field.name ≠ constantName := by
    intro equal
    rw [sourceName_of_plain plain member] at equal
    apply plain.notSpecial field member
    rw [equal]
    exact ⟨"debug".toList, by decide, by decide⟩
  simpa [bindsConstant] using different

theorem boundNames_any :
    (boundNames (.ofTemplate template)).any bindsConstant = bindsConstant template.name := by
  have fields : template.fieldNames.any bindsConstant = false := by
    apply List.any_eq_false.mpr
    intro name member
    rcases List.mem_map.mp member with ⟨field, listed, rfl⟩
    simp [bindsConstant_field plain listed]
  rw [boundNames_ofTemplate, List.any_cons, fields, Bool.or_false]

end Template

/-! ## Loading -/

theorem loadMembers_ofTemplate (around : String) (template : TemplateClass) :
    loadMembers around (.ofTemplate template) =
      [(sourceName template.name, .template (loadTemplate around template))] := by
  simp [Scope.ofTemplate, Scope.empty, Scope.add, loadMembers, loadChildren, loadTemplate]

/-- What the source of a template comes to when it runs. -/
theorem loadModule_ofTemplate {template : TemplateClass}
    (plain : HasPlainNames (sourceName template.name) template.fields)
    (accepted : sourceError? (.ofTemplate template) = none) :
    loadModule (.ofTemplate template) =
      if bindsConstant template.name then .error (.constantName constantName)
      else .ok [(sourceName template.name, .template (loadTemplate "" template))] := by
  rw [loadModule, loadError?, accepted, templatesOf_ofTemplate, boundNames_any plain,
    loadMembers_ofTemplate]
  simp only [List.findSome?_cons, List.findSome?_nil, duplicateParameter?_eq_none plain,
    conflictingSlot?_eq_none plain]
  cases bindsConstant template.name with
  | false => simp
  | true => simp

/-! ## Quoted names -/

theorem sourceName_toIdentifier (name : String) :
    sourceName (toIdentifier name) = sourceName name := by
  rw [sourceName, toIdentifier_toIdentifier, sourceName]

namespace Source

theorem loadField_quoted (className : String) (field : Field) :
    loadField className ⟨toIdentifier field.name, field.type⟩ = loadField className field := by
  simp [loadField, sourceName_toIdentifier, toIdentifier_toIdentifier]

theorem loadTemplate_quoted (around : String) (template : TemplateClass) :
    loadTemplate around (quoted template) = loadTemplate around template := by
  simp [loadTemplate, quoted, loadField_quoted, sourceName_toIdentifier, Function.comp_def]

theorem duplicateParameter?_quoted (template : TemplateClass) :
    duplicateParameter? (quoted template) = duplicateParameter? template := by
  simp [duplicateParameter?, quoted, TemplateClass.fieldNames, sourceName_toIdentifier,
    Function.comp_def]

theorem conflictingSlot?_quoted (template : TemplateClass) :
    conflictingSlot? (quoted template) = conflictingSlot? template := by
  rw [conflictingSlot?, loadTemplate_quoted, conflictingSlot?]

theorem templatesOf_quoted (scope : Scope) :
    templatesOf scope.quoted = (templatesOf scope).map quoted := by
  have same (inner : Scope) (name : Option String) :
      (inner.quotedAs name).types = inner.types.map quoted := by rw [Scope.quotedAs_eq]
  have templates := scope.walk_flatMap_quotedAs _ _ same none
  rw [templatesOf, Scope.quoted, templates, templatesOf, List.map_flatMap]

theorem boundNames_quoted (scope : Scope) :
    boundNames scope.quoted = (boundNames scope).map toIdentifier := by
  have same (inner : Scope) (name : Option String) :
      (inner.quotedAs name).children.map (·.1) = (inner.children.map (·.1)).map toIdentifier := by
    rw [Scope.quotedAs_eq, Scope.quotedChildren_eq, List.map_map, List.map_map]
    rfl
  have children := scope.walk_flatMap_quotedAs (·.children.map (·.1)) _ same none
  rw [boundNames, templatesOf_quoted, Scope.quoted, children, boundNames, List.map_append,
    List.map_flatMap, List.map_flatMap, List.flatMap_map]
  simp [quoted, TemplateClass.fieldNames, Function.comp_def]

/-- Quoting the names of a tree changes nothing in what keeps its source from being loaded. -/
theorem loadError?_quoted (scope : Scope) : loadError? scope.quoted = loadError? scope := by
  have accepted : sourceError? scope.quoted = sourceError? scope := by
    rw [sourceError?, moduleRows_quoted, sourceError?]
  have constants : (boundNames scope.quoted).any bindsConstant =
      (boundNames scope).any bindsConstant := by
    have constant (name : String) : bindsConstant (toIdentifier name) = bindsConstant name := by
      rw [bindsConstant, sourceName_toIdentifier, bindsConstant]
    simp only [boundNames_quoted, List.any_map, Function.comp_def, constant]
  rw [loadError?, accepted, constants, templatesOf_quoted, List.findSome?_map, List.findSome?_map,
    loadError?]
  simp only [Function.comp_def, duplicateParameter?_quoted, conflictingSlot?_quoted]

theorem loadChildren_quotedChildren {children : List (String × Scope)}
    (below : ∀ childName child, (childName, child) ∈ children →
      ∀ around name, loadMembers around (child.quotedAs name) = loadMembers around child)
    (around : String) :
    loadChildren around (Scope.quotedChildren children) = loadChildren around children := by
  induction children with
  | nil => rfl
  | cons head tail induction =>
      rcases head with ⟨name, child⟩
      have later := induction fun childName other member =>
        below childName other (List.mem_cons_of_mem _ member)
      rw [Scope.quotedChildren, loadChildren, sourceName_toIdentifier, later, loadChildren,
        below name child List.mem_cons_self]

theorem loadMembers_quotedAs (scope : Scope) (around : String) (name : Option String) :
    loadMembers around (scope.quotedAs name) = loadMembers around scope := by
  induction scope using Scope.induction generalizing around name with
  | scope own types children induction =>
      rw [Scope.quotedAs, loadMembers, loadChildren_quotedChildren induction, loadMembers]
      simp [loadTemplate_quoted, Function.comp_def]

theorem loadModule_quoted (scope : Scope) : loadModule scope.quoted = loadModule scope := by
  rw [loadModule, loadError?_quoted, Scope.quoted, loadMembers_quotedAs, loadModule]

/-! ## Running -/

/-- Runs a source: the classes that it binds at the top of its module. There is no result for a
source that does not read. -/
def run? (source : String) : Option (Except LoadError (List (String × LoadedClass))) :=
  (module? source).map loadModule

/-- The source of a tree of scopes runs as the tree is loaded. -/
theorem run?_moduleSource {scope : Scope}
    (words : ∀ template ∈ templatesOf scope, HasWordTypes template) :
    run? (moduleSource scope) = some (loadModule scope) := by
  rw [run?, module?_moduleSource words, Option.map_some, loadModule_quoted]

/-- The source of a template runs unless its class has the name of a constant. -/
theorem run?_ofTemplate {template : TemplateClass} (types : HasWordTypes template)
    (plain : HasPlainNames (sourceName template.name) template.fields)
    (accepted : sourceError? (.ofTemplate template) = none) :
    run? (moduleSource (.ofTemplate template)) =
      some (if bindsConstant template.name then .error (.constantName constantName)
        else .ok [(sourceName template.name, .template (loadTemplate "" template))]) := by
  rw [run?_moduleSource (hasWordTypes_ofTemplate types), loadModule_ofTemplate plain accepted]

end Source

end Stencil
