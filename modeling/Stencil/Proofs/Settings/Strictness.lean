import Stencil.Proofs.Settings.Merging
import Stencil.Settings.Validation

/-!
Strict validation beside lenient validation. Strict validation finds all that lenient validation
finds, at the same places and in the same order, and an unknown key at each entry of the settings or
of a section that has no known one. So it passes just those settings that lenient validation passes
and whose keys are all known.
-/

namespace Stencil.Settings

/-! ## What findings and issues are about -/

def Finding.subject (finding : Finding) : List String × Value := (finding.place, finding.actual)

def Issue.subject (issue : Issue) : String × Value := (issue.key, issue.actual)

/-- The places that are found fault with, and the values there. -/
def subjects (findings : List Finding) : List (List String × Value) :=
  findings.map Finding.subject

theorem map_subject_validate (strictness : Strictness) (settings : Table) :
    (validate strictness settings).map Issue.subject =
      (subjects (check strictness settings).findings).map (Prod.map (joinTexts ".") id) := by
  simp only [validate, subjects, List.map_map]
  rfl

theorem validate_eq_nil_iff_subjects {strictness : Strictness} {settings : Table} :
    validate strictness settings = [] ↔ subjects (check strictness settings).findings = [] := by
  rw [validate, subjects, List.map_eq_nil_iff, List.map_eq_nil_iff]

/-! ## Unknown keys -/

/-- The entries of a table under keys that are none of the known ones. -/
def unknownEntries (known : List String) (entries : Table) : List (List String × Value) :=
  subjects (unknownKeys .strict known entries)

/-- The entries of a section under keys that are none of its options. -/
def unknownOptions (settings : Table) (name : String) (known : List String) :
    List (List String × Value) :=
  match Table.find? settings name with
  | some (.table options) => (unknownEntries known options).map (Prod.map (name :: ·) id)
  | _ => []

/-- Only known keys: those of the settings name sections, and those of a section its options. -/
structure HasKnownKeys (settings : Table) : Prop where
  sections : ∀ key ∈ Table.keys settings, key ∈ sectionNames
  logging : ∀ options, Table.find? settings "logging" = some (.table options) →
    ∀ key ∈ Table.keys options, key ∈ loggingOptions
  compile : ∀ options, Table.find? settings "compile" = some (.table options) →
    ∀ key ∈ Table.keys options, key ∈ compileOptions
  emit : ∀ options, Table.find? settings "emit" = some (.table options) →
    ∀ key ∈ Table.keys options, key ∈ emitOptions

theorem unknownEntries_eq_nil_iff {known : List String} {entries : Table} :
    unknownEntries known entries = [] ↔ ∀ key ∈ Table.keys entries, key ∈ known := by
  simp [unknownEntries, subjects, unknownKeys, Table.keys, List.filter_eq_nil_iff]

theorem unknownOptions_eq_nil_iff {settings : Table} {name : String} {known : List String} :
    unknownOptions settings name known = [] ↔
      ∀ options, Table.find? settings name = some (.table options) →
        ∀ key ∈ Table.keys options, key ∈ known := by
  rw [unknownOptions]
  split
  · rename_i options found
    rw [List.map_eq_nil_iff, unknownEntries_eq_nil_iff, found]
    simp
  · rename_i noTable
    simp only [true_iff]
    intro options found
    exact absurd found (noTable options)

/-! ## Sections -/

/-- A section has the same faults for both, and behind them for strict validation those of its
unknown keys. -/
theorem subjects_checkSection {α : Type} (settings : Table) (name model : String)
    (known : List String) (default : α) (check : Table → Checked α) :
    subjects (checkSection .strict settings name model known default check).findings =
      subjects (checkSection .lenient settings name model known default check).findings ++
        unknownOptions settings name known := by
  have named (findings : List Finding) :
      subjects (findings.map fun finding => { finding with place := name :: finding.place }) =
        (subjects findings).map (Prod.map (name :: ·) id) := by
    simp only [subjects, List.map_map]
    rfl
  rw [checkSection, checkSection, unknownOptions]
  cases Table.find? settings name with
  | none => rfl
  | some value =>
      cases value with
      | table options =>
          have unknown : unknownKeys .lenient known options = [] := rfl
          simp only [named, unknown, List.append_nil, ← List.map_append, unknownEntries]
          simp only [subjects, List.map_append]
      | _ => rfl

/-! ## Settings -/

theorem subjects_check_lenient (settings : Table) :
    subjects (check .lenient settings).findings =
      subjects (checkSection .lenient settings "logging" "LoggingConfig" loggingOptions {}
          checkLogging).findings ++
        subjects (checkSection .lenient settings "compile" "CompileConfig" compileOptions {}
          checkCompile).findings ++
        subjects (checkSection .lenient settings "emit" "EmitConfig" emitOptions {}
          checkEmit).findings := by
  simp [check, subjects, unknownKeys]

theorem subjects_check_strict (settings : Table) :
    subjects (check .strict settings).findings =
      (subjects (checkSection .lenient settings "logging" "LoggingConfig" loggingOptions {}
            checkLogging).findings ++ unknownOptions settings "logging" loggingOptions) ++
          (subjects (checkSection .lenient settings "compile" "CompileConfig" compileOptions {}
            checkCompile).findings ++ unknownOptions settings "compile" compileOptions) ++
        (subjects (checkSection .lenient settings "emit" "EmitConfig" emitOptions {}
          checkEmit).findings ++ unknownOptions settings "emit" emitOptions) ++
      unknownEntries sectionNames settings := by
  simp only [← subjects_checkSection, unknownEntries]
  simp only [check, subjects, List.map_append]

/-- Strict validation is lenient validation and a ban on unknown keys: it has no issue just if
lenient validation has none and all keys are known, and the issues of lenient validation are, by
key and value, among its own, in their order. -/
theorem validate_strict (settings : Table) :
    (validate .strict settings = [] ↔ validate .lenient settings = [] ∧ HasKnownKeys settings) ∧
      ((validate .lenient settings).map Issue.subject).Sublist
        ((validate .strict settings).map Issue.subject) := by
  constructor
  · rw [validate_eq_nil_iff_subjects, validate_eq_nil_iff_subjects, subjects_check_strict,
      subjects_check_lenient]
    simp only [List.append_eq_nil_iff, unknownOptions_eq_nil_iff, unknownEntries_eq_nil_iff]
    constructor
    · rintro ⟨⟨⟨⟨logging, loggingKnown⟩, compile, compileKnown⟩, emit, emitKnown⟩, sectionsKnown⟩
      exact ⟨⟨⟨logging, compile⟩, emit⟩, ⟨sectionsKnown, loggingKnown, compileKnown, emitKnown⟩⟩
    · rintro ⟨⟨⟨logging, compile⟩, emit⟩, known⟩
      exact ⟨⟨⟨⟨logging, known.logging⟩, compile, known.compile⟩, emit, known.emit⟩,
        known.sections⟩
  · rw [map_subject_validate, map_subject_validate, subjects_check_strict, subjects_check_lenient]
    apply List.Sublist.map
    apply List.Sublist.trans _ (List.sublist_append_left _ _)
    exact ((List.sublist_append_left _ _).append (List.sublist_append_left _ _)).append
      (List.sublist_append_left _ _)

/-- Issues of both kinds at both levels: a section that is no table, a wrong value beside an unknown
option, and an unknown section. -/
example :
    let settings : Table := [("emit", .int 5), ("extra", .null),
      ("compile", .table [("colour", .int 1), ("minify", .text "maybe")])]
    (validate .lenient settings).map Issue.key = ["compile.minify", "emit"] ∧
      (validate .strict settings).map Issue.key =
        ["compile.minify", "compile.colour", "emit", "extra"] := by
  decide +kernel

end Stencil.Settings
