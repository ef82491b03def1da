import Mathlib.Data.List.Find
import Mathlib.Data.List.Nodup
import Stencil.Proofs.ClassSource.Loading
import Stencil.Proofs.Template.Formatting
import Stencil.Proofs.Template.Header
import Stencil.Proofs.Template.Scan

/-!
What a template means from end to end. The source that a document becomes runs, and an instance of
its class renders the body of the document with the values of its fields in the place of the
references.
-/

namespace Stencil

/-- The value of the field that a reference by this name is to. -/
def valueOf? (fields : List Field) (values : List String) (name : String) : Option String :=
  ((fields.zip values).find? fun pair => toIdentifier pair.1.name == toIdentifier name).map (·.2)

/-- What a scanned body comes to with the values of fields. -/
def meaning (fields : List Field) (values : List String) (scan : List Piece) : String :=
  .ofList (scan.flatMap (Piece.filled fun name =>
    ((valueOf? fields values (.ofList name)).getD "").toList))

theorem valueOf?_quote (fields : List Field) (values : List String) (name : List Char) :
    valueOf? fields values (.ofList (Identifier.quote name)) =
      valueOf? fields values (.ofList name) := by
  have same : toIdentifier (.ofList (Identifier.quote name)) = toIdentifier (.ofList name) := by
    simp [toIdentifier, Identifier.quote_quote]
  rw [valueOf?, same, valueOf?]

/-- It does not matter for the meaning if the names of the references are quoted. -/
theorem flatMap_filled_quoteName (fields : List Field) (values : List String)
    (scan : List Piece) :
    (scan.map Piece.quoteName).flatMap (Piece.filled fun name =>
        ((valueOf? fields values (.ofList name)).getD "").toList) =
      scan.flatMap (Piece.filled fun name =>
        ((valueOf? fields values (.ofList name)).getD "").toList) := by
  rw [List.flatMap_map]
  apply List.flatMap_congr
  intro piece _
  cases piece with
  | character c => rfl
  | field name => simp only [Piece.quoteName, Piece.filled, valueOf?_quote]

/-- The literal of a body reads as its scan with the names of the references quoted. -/
theorem read?_substitute_scan {text : String} {scan : List Piece}
    (scanned : Placeholder.Scan text.toList scan) :
    BodyLiteral.read? (bodyLiteral (substitute text)).toList = some (scan.map Piece.quoteName) := by
  rw [substitute, ← scanned.eq_pieces]
  apply BodyLiteral.read?_bodyLiteral
  intro quoted member
  rcases List.mem_map.mp member with ⟨piece, listed, equal⟩
  cases piece with
  | character c => cases equal
  | field name =>
      cases equal
      have fit := Identifier.quote_isFit name
      exact ⟨fit.nonempty, fit.words, (scanned.isName name listed).isAscii⟩

/-! ## Instances -/

theorem forM_ok {α ε : Type} {items : List α} {run : α → Except ε Unit}
    (each : ∀ item ∈ items, run item = .ok ()) : items.forM run = .ok () := by
  induction items with
  | nil => rfl
  | cons item items induction =>
      have first := each item List.mem_cons_self
      have others := induction fun other member => each other (List.mem_cons_of_mem _ member)
      show (run item >>= fun _ => items.forM run) = .ok ()
      rw [first]
      exact others

theorem exists_value {fields : List Field} {values : List String}
    (count : values.length = fields.length) {name : String} {field : Field}
    (member : field ∈ fields)
    (same : toIdentifier field.name = toIdentifier name) :
    ∃ pair, (fields.zip values).find? (fun pair =>
      toIdentifier pair.1.name == toIdentifier name) = some pair ∧
        toIdentifier pair.1.name = toIdentifier name := by
  have first : (fields.zip values).map Prod.fst = fields :=
    List.map_fst_zip (Nat.le_of_eq count.symm)
  rw [← first] at member
  rcases List.mem_map.mp member with ⟨pair, inside, rfl⟩
  cases found : (fields.zip values).find? (fun pair =>
      toIdentifier pair.1.name == toIdentifier name) with
  | none =>
      have missed := List.find?_eq_none.mp found pair inside
      simp [same] at missed
  | some other => exact ⟨other, rfl, by simpa using List.find?_some found⟩

section Instance

variable {template : TemplateClass}
  (plain : HasPlainNames (sourceName template.name) template.fields)

/-- The names of the fields inside the class. -/
def innerNames (template : TemplateClass) : List String :=
  template.fields.map fun field =>
    privateName (sourceName template.name) (toIdentifier field.name)

include plain

theorem names_loadTemplate (around : String) :
    (loadTemplate around template).fields.map (·.name) = innerNames template := by
  simp only [loadTemplate, List.map_map, innerNames]
  apply List.map_congr_left
  intro field member
  rw [Function.comp_apply, loadField_of_plain plain member]

theorem not_isSpecial_of_innerName {name : String} (member : name ∈ innerNames template) :
    ¬ IsSpecial name := by
  rcases List.mem_map.mp member with ⟨field, listed, rfl⟩
  exact not_isSpecial_privateName (plain.notSpecial field listed)

/-- Every value of a field can be set. -/
theorem set_ok {owner name : String} (member : name ∈ innerNames template) (value : Argument) :
    Attribute.set owner (innerNames template) name value = .ok () := by
  have noSetter : "__setattr__" ∉ innerNames template := fun inside =>
    not_isSpecial_of_innerName plain inside ⟨"setattr".toList, by decide, by decide⟩
  have noDictionary : name ≠ "__dict__" := by
    rintro rfl
    exact not_isSpecial_of_innerName plain member ⟨"dict".toList, by decide, by decide⟩
  have noReference : name ≠ "__weakref__" := by
    rintro rfl
    exact not_isSpecial_of_innerName plain member ⟨"weakref".toList, by decide, by decide⟩
  simp [Attribute.set, noSetter, member, noDictionary, noReference]

theorem construct_ok {arguments : List Argument}
    (count : arguments.length = template.fields.length) :
    (loadTemplate "" template).construct arguments =
      .ok ((innerNames template).zip arguments) := by
  have noMaker : "__new__" ∉ innerNames template := fun inside =>
    not_isSpecial_of_innerName plain inside ⟨"new".toList, by decide, by decide⟩
  have slots : (loadTemplate "" template).slots = innerNames template :=
    slots_loadTemplate plain ""
  have bound : (loadTemplate "" template).bindArguments arguments =
      .ok ((innerNames template).zip arguments) := by
    have length : (innerNames template).length = arguments.length := by
      simp [innerNames, count]
    simp [LoadedTemplate.bindArguments, names_loadTemplate plain, length]
  have stored : ((innerNames template).zip arguments).forM (fun pair =>
      (Attribute.set (loadTemplate "" template).name (innerNames template) pair.1
        pair.2).mapError RenderError.unsettable) = .ok () := by
    apply forM_ok
    intro pair member
    rw [set_ok plain (List.of_mem_zip member).1]
    rfl
  rw [LoadedTemplate.construct, slots, bound]
  simp [noMaker, bind, Except.bind, stored, pure, Except.pure]

/-- The value of a field is found under its name inside the class. -/
theorem find?_innerName {values : List String} {name : String} {field : Field}
    (member : field ∈ template.fields)
    (same : toIdentifier field.name = toIdentifier name) :
    ((innerNames template).zip (values.map Argument.text)).find?
        (·.1 == privateName (sourceName template.name) (toIdentifier name)) =
      ((template.fields.zip values).find? fun pair =>
        toIdentifier pair.1.name == toIdentifier name).map fun pair =>
          (privateName (sourceName template.name) (toIdentifier pair.1.name), .text pair.2) := by
  have tests : ∀ pair ∈ template.fields.zip values,
      (privateName (sourceName template.name) (toIdentifier pair.1.name) ==
          privateName (sourceName template.name) (toIdentifier name)) =
        (toIdentifier pair.1.name == toIdentifier name) := by
    intro pair inside
    have listed := (List.of_mem_zip inside).1
    rw [Bool.eq_iff_iff, beq_iff_eq, beq_iff_eq, ← same]
    constructor
    · intro equal
      rw [List.inj_on_of_nodup_map plain.distinct listed member equal]
    · intro equal
      rw [equal]
  rw [innerNames, List.zip_map, List.find?_map]
  simp only [Function.comp_def, Prod.map_fst]
  rw [List.find?_congr tests]
  rfl

theorem innerName_eq {around : String} {name : List Char} {field : Field}
    (member : field ∈ template.fields)
    (same : toIdentifier field.name = toIdentifier (.ofList name)) :
    (loadTemplate around template).innerName (Identifier.quote name) =
      privateName (sourceName template.name) (toIdentifier (.ofList name)) := by
  have quoted : String.ofList (Identifier.quote name) = toIdentifier (.ofList name) := by
    rw [toIdentifier, String.toList_ofList]
  have ascii : ∀ c ∈ (toIdentifier (.ofList name)).toList, Character.IsAscii c :=
    same ▸ plain.ascii field member
  rw [LoadedTemplate.innerName, quoted, normalForm_of_ascii ascii, loadTemplate]

/-- A reference is shown as the value of the field that it is to. -/
theorem shown?_reference {values : List String} (count : values.length = template.fields.length)
    {name : List Char} {field : Field} (member : field ∈ template.fields)
    (same : toIdentifier field.name = toIdentifier (.ofList name))
    (members : List (String × LoadedClass)) :
    (loadTemplate "" template).shown? members
        ((innerNames template).zip (values.map Argument.text))
        ((loadTemplate "" template).innerName (Identifier.quote name)) =
      some ((valueOf? template.fields values (.ofList name)).getD "") := by
  rcases exists_value count member same with ⟨pair, located, _⟩
  have found : ((innerNames template).zip (values.map Argument.text)).find? _ = _ :=
    find?_innerName plain member same
  rw [located] at found
  rw [innerName_eq plain member same, LoadedTemplate.shown?, found, valueOf?, located]
  rfl

theorem fill_loadTemplate {text : String} {scan : List Piece}
    (body : template.body = substitute text) (scanned : Placeholder.Scan text.toList scan)
    (declared : ∀ name, .field name ∈ scan →
      ∃ field ∈ template.fields, toIdentifier field.name = toIdentifier (.ofList name))
    {values : List String} (count : values.length = template.fields.length)
    (members : List (String × LoadedClass)) :
    (loadTemplate "" template).fill members
        ((innerNames template).zip (values.map Argument.text)) =
      .ok (meaning template.fields values scan) := by
  have read : BodyLiteral.read? (bodyLiteral (loadTemplate "" template).body).toList =
      some (scan.map Piece.quoteName) := by
    rw [loadTemplate, body, read?_substitute_scan scanned]
  have bound : ∀ name, .field name ∈ scan.map Piece.quoteName →
      ((loadTemplate "" template).shown? members
          ((innerNames template).zip (values.map Argument.text))
          ((loadTemplate "" template).innerName name)).map String.toList =
        some ((valueOf? template.fields values (.ofList name)).getD "").toList := by
    intro name member
    rcases List.mem_map.mp member with ⟨piece, listed, equal⟩
    cases piece with
    | character c => cases equal
    | field original =>
        cases equal
        rcases declared original listed with ⟨field, inFields, same⟩
        rw [shown?_reference plain count inFields same, Option.map_some, valueOf?_quote]
  rw [LoadedTemplate.fill, read]
  simp only [Piece.fill_of_bound bound, flatMap_filled_quoteName]
  rfl

/-- An instance renders the body with the values of its fields. -/
theorem render_loadTemplate {text : String} {scan : List Piece}
    (body : template.body = substitute text) (scanned : Placeholder.Scan text.toList scan)
    (declared : ∀ name, .field name ∈ scan →
      ∃ field ∈ template.fields, toIdentifier field.name = toIdentifier (.ofList name))
    {values : List String} (count : values.length = template.fields.length)
    (members : List (String × LoadedClass)) :
    (loadTemplate "" template).render members (values.map .text) =
      .ok (meaning template.fields values scan) := by
  have slots : (loadTemplate "" template).slots = innerNames template :=
    slots_loadTemplate plain ""
  have noLookup : ((innerNames template).zip (values.map Argument.text)).find?
      (·.1 == "__getattribute__") = none := by
    apply List.find?_eq_none.mpr
    intro pair member named
    apply not_isSpecial_of_innerName plain (List.of_mem_zip member).1
    rw [eq_of_beq named]
    exact ⟨"getattribute".toList, by decide, by decide⟩
  have length : (values.map Argument.text).length = template.fields.length := by simp [count]
  rw [LoadedTemplate.render, construct_ok plain length, slots]
  simp only [bind, Except.bind, noLookup]
  exact fill_loadTemplate plain body scanned declared count members

end Instance

end Stencil
