import Stencil.Proofs.Settings.Agreement
import Stencil.Proofs.Settings.Layers

/-!
Settings read without validation. A level, a format or a size that is wrong falls back to its
default. A truth value and the name of a file do not: any value counts as true or false and any
value is shown as a text. A section that is no table, and patterns that cannot be gone through, end
the reading.
-/

namespace Stencil

/-! ## What is shown as nothing -/

namespace NumberLayout

theorem positional_ne_nil (digits : List Char) (point : Int) : positional digits point ≠ [] := by
  rw [positional]
  split
  · simp
  · split <;> simp

theorem write_plain_ne_empty (number : Binary64) : plain.write number ≠ "" := by
  cases number with
  | notANumber => decide
  | infinite negative => cases negative <;> decide
  | finite negative mantissa exponent =>
      rw [write]
      intro empty
      have none := String.ofList_eq_empty_iff.mp empty
      split at none
      · cases none
      · split at none
        · exact positional_ne_nil _ _ none
        · simp [scientific] at none

end NumberLayout

theorem toString_int_ne_empty (value : Int) : toString value ≠ "" := by
  cases value with
  | ofNat n =>
      change n.repr ≠ ""
      rw [Nat.repr_eq_ofList_toDigits, Ne, String.ofList_eq_empty_iff]
      exact Nat.toDigits_ne_nil
  | negSucc n =>
      change "-" ++ (n + 1).repr ≠ ""
      simp

/-- Only a text is shown as nothing. -/
theorem Value.shown_ne_empty {value : Value} (other : ∀ text, value ≠ .text text) :
    value.shown ≠ "" := by
  cases value with
  | text text => exact absurd rfl (other text)
  | null => decide
  | bool value => cases value <;> decide
  | int value => exact toString_int_ne_empty value
  | float value => exact NumberLayout.write_plain_ne_empty value
  | date value => simp [shown, Date.toString]
  | time value => simp [shown, TimeOfDay.toString]
  | dateTime value => simp [shown, DateTime.write]
  | list members => simp [shown, quoted]
  | table entries => simp [shown, quoted]

namespace Settings

/-! ## Options at fault -/

/-- A value that validation takes for an option. -/
def IsTaken {α : Type} (read : Value → Except Problem α) (value : Value) : Prop :=
  (read value).isOk = true

def IsTextList (value : Value) : Prop :=
  ∃ patterns : List String, value = .list (patterns.map .text)

/-- The whole section of an option is no table, or its value is not one to be taken. -/
def IsAtFault (settings : Table) (name option : String) (taken : Value → Prop) : Prop :=
  ∃ held, Table.find? settings name = some held ∧ ∀ options, held = .table options →
    ∃ value, Table.find? options option = some value ∧ ¬ taken value

/-- Every option that is at fault has its default. -/
structure FallsBack (settings : Table) (typed : TypedSettings) : Prop where
  level : IsAtFault settings "logging" "level" (IsTaken toLevel) → typed.logging.level = .info
  format : IsAtFault settings "logging" "format" (IsTaken toFormat) → typed.logging.format = .json
  file : IsAtFault settings "logging" "file" (IsTaken toText) → typed.logging.file = ""
  maxBytes : IsAtFault settings "logging" "max_bytes" (IsTaken (toSize 1)) →
    typed.logging.maxBytes = none
  backupCount : IsAtFault settings "logging" "backup_count" (IsTaken (toSize 0)) →
    typed.logging.backupCount = none
  minify : IsAtFault settings "compile" "minify" (IsTaken toTruth) → typed.compile.minify = true
  exclude : IsAtFault settings "compile" "exclude" IsTextList → typed.compile.exclude = []
  checkSyntax : IsAtFault settings "emit" "check_syntax" (IsTaken toTruth) →
    typed.emit.checkSyntax = true

/-! ## Settings that can be read -/

/-- A value whose members can be gone through. -/
def IsIterable (value : Value) : Prop := (memberTexts value).isOk = true

/-- Settings whose sections are tables and whose patterns can be gone through. -/
structure IsReadable (settings : Table) : Prop where
  sections : ∀ name ∈ sectionNames, ∀ held, Table.find? settings name = some held →
    held.isTable = true
  exclude : ∀ value, valueAt? (.table settings) ["compile", "exclude"] = some value →
    IsIterable value

/-- What settings that cannot be read have in the place of a table or of a list. -/
inductive IsUnfit (settings : Table) : ShapeError → Prop where
  | ofSection {name : String} {held : Value} (listed : name ∈ sectionNames)
      (found : Table.find? settings name = some held) (leaf : held.isTable = false) :
      IsUnfit settings (.notATable held.kind)
  | ofPatterns {value : Value}
      (found : valueAt? (.table settings) ["compile", "exclude"] = some value)
      (barred : ¬ IsIterable value) : IsUnfit settings (.notAList value.kind)

/-- Settings that can be read and in which nothing is at fault but what falls back: a level, a
format or a size, empty patterns, and a truth value that counts as true. -/
structure IsMendable (settings : Table) : Prop extends IsReadable settings where
  file : ∀ value, valueAt? (.table settings) ["logging", "file"] = some value →
    IsTaken toText value
  minify : ∀ value, valueAt? (.table settings) ["compile", "minify"] = some value →
    IsTaken toTruth value ∨ value.isTruthy = true
  patterns : ∀ value, valueAt? (.table settings) ["compile", "exclude"] = some value →
    IsTextList value ∨ value = .text "" ∨ value = .table []
  checkSyntax : ∀ value, valueAt? (.table settings) ["emit", "check_syntax"] = some value →
    IsTaken toTruth value ∨ value.isTruthy = true

section Sections

variable {settings options : Table} {name option : String} {taken : Value → Prop}

theorem exists_sectionOf_iff :
    (∃ options, sectionOf settings name = .ok options) ↔
      ∀ held, Table.find? settings name = some held → held.isTable = true := by
  rw [sectionOf]
  cases Table.find? settings name with
  | none => simp
  | some held => cases held <;> simp [Value.isTable]

theorem sectionOf_eq_error_iff {error : ShapeError} :
    sectionOf settings name = .error error ↔ ∃ held, Table.find? settings name = some held ∧
      held.isTable = false ∧ error = .notATable held.kind := by
  rw [sectionOf]
  cases Table.find? settings name with
  | none => simp
  | some held => cases held <;> simp [Value.isTable, @eq_comm _ error]

/-- In a section that is a table, an option is at fault by its value. -/
theorem isAtFault_iff (found : sectionOf settings name = .ok options) :
    IsAtFault settings name option taken ↔
      ∃ value, Table.find? options option = some value ∧ ¬ taken value := by
  rw [sectionOf] at found
  rw [IsAtFault]
  cases held : Table.find? settings name with
  | none =>
      rw [held] at found
      cases found
      simp [Table.find?]
  | some held' =>
      rw [held] at found
      cases held' with
      | table entries =>
          cases found
          simp
      | _ => cases found

/-- What is to hold of an option at fault is to hold of every value that is not taken. -/
theorem fallsBack_iff {promise : Prop} (found : sectionOf settings name = .ok options) :
    (IsAtFault settings name option taken → promise) ↔
      ∀ value, valueAt? (.table settings) [name, option] = some value →
        taken value ∨ promise := by
  rw [isAtFault_iff found, valueAt?_of_sectionOf found]
  simp only [forall_exists_index, and_imp, or_iff_not_imp_left]

/-- An option falls back if the reading of every value that is not taken is the default. -/
theorem elim_fallsBack_iff {α : Type} {default : α} {read : Value → α}
    (found : sectionOf settings name = .ok options) :
    (IsAtFault settings name option taken →
        (Table.find? options option).elim default read = default) ↔
      ∀ value, valueAt? (.table settings) [name, option] = some value →
        taken value ∨ read value = default := by
  rw [fallsBack_iff found, valueAt?_of_sectionOf found]
  refine forall_congr' fun value => imp_congr_right fun held => ?_
  rw [held, Option.elim_some]

end Sections

/-! ## Options that fall back -/

section Options

variable {value : Value}

theorem ofName?_of_not_isTaken_level (refused : ¬ IsTaken toLevel value) :
    (textOf? value).bind LogLevel.ofName? = none := by
  rw [IsTaken, toLevel] at refused
  cases named : (textOf? value).bind LogLevel.ofName? with
  | none => rfl
  | some level =>
      rw [named] at refused
      exact absurd rfl refused

theorem ofName?_of_not_isTaken_format (refused : ¬ IsTaken toFormat value) :
    (textOf? value).bind LogFormat.ofName? = none := by
  rw [IsTaken, toFormat] at refused
  cases named : (textOf? value).bind LogFormat.ofName? with
  | none => rfl
  | some format =>
      rw [named] at refused
      exact absurd rfl refused

theorem sizeFrom?_of_not_isTaken {least : Int} (refused : ¬ IsTaken (toSize least) value) :
    sizeFrom? least value = none := by
  cases value with
  | int whole =>
      by_cases enough : least ≤ whole
      · refine absurd ?_ refused
        simp only [IsTaken, toSize, toIntegerFrom, toInteger, bind, Except.bind, if_pos enough]
        rfl
      · rw [sizeFrom?, if_neg enough]
  | _ => rfl

/-- A value that is shown as nothing is a text. -/
theorem isTaken_of_shown (nothing : value.shown = "") : IsTaken toText value := by
  by_contra refused
  refine Value.shown_ne_empty ?_ nothing
  rintro text rfl
  exact refused rfl

/-- Patterns that are no list of texts are empty only if the value is. -/
theorem eq_nil_iff_of_memberTexts {texts : List String} (gone : memberTexts value = .ok texts) :
    IsTextList value ∨ texts = [] ↔ IsTextList value ∨ value = .text "" ∨ value = .table [] := by
  cases value with
  | list members =>
      cases members with
      | nil =>
          have empty : IsTextList (.list []) := ⟨[], rfl⟩
          simp [empty]
      | cons member later =>
          cases gone
          simp
  | text text =>
      cases gone
      simp [IsTextList]
  | table entries =>
      cases gone
      simp [IsTextList]
  | _ => cases gone

end Options

/-! ## The reading -/

section Reading

variable {settings : Table} {typed : TypedSettings} {error : ShapeError}

theorem readCompile_eq_ok {options : Table} {given : CompileSettings}
    (read : readCompile options = .ok given) :
    given.minify = (Table.find? options "minify").elim true Value.isTruthy ∧
      ∀ value, Table.find? options "exclude" = some value →
        memberTexts value = .ok given.exclude := by
  rcases bind_eq_ok.mp read with ⟨texts, gone, same⟩
  cases same
  refine ⟨rfl, ?_⟩
  intro value found
  rwa [found] at gone

theorem readCompile_eq_error {options : Table} (failed : readCompile options = .error error) :
    ∃ value, Table.find? options "exclude" = some value ∧ memberTexts value = .error error := by
  rcases bind_eq_error.mp failed with gone | ⟨_, _, absurdity⟩
  · cases found : Table.find? options "exclude" with
    | none =>
        rw [found] at gone
        cases gone
    | some value =>
        rw [found] at gone
        exact ⟨value, rfl, gone⟩
  · cases absurdity

/-- The sections that settings are read from. -/
theorem read_eq_ok (read : TypedSettings.read settings = .ok typed) :
    ∃ logging compile emit, sectionOf settings "logging" = .ok logging ∧
      sectionOf settings "compile" = .ok compile ∧ sectionOf settings "emit" = .ok emit ∧
      typed.logging = readLogging logging ∧ readCompile compile = .ok typed.compile ∧
      typed.emit = readEmit emit := by
  rcases bind_eq_ok.mp read with ⟨logging, loggingFound, read⟩
  rcases bind_eq_ok.mp read with ⟨compile, compileFound, read⟩
  rcases bind_eq_ok.mp read with ⟨given, compileRead, read⟩
  rcases bind_eq_ok.mp read with ⟨emit, emitFound, read⟩
  cases read
  exact ⟨logging, compile, emit, loggingFound, compileFound, emitFound, rfl, compileRead, rfl⟩

theorem isUnfit_of_sectionOf {name : String} (listed : name ∈ sectionNames)
    (failed : sectionOf settings name = .error error) : IsUnfit settings error := by
  rcases sectionOf_eq_error_iff.mp failed with ⟨held, found, leaf, rfl⟩
  exact .ofSection listed found leaf

theorem not_isIterable_of_memberTexts {value : Value} (failed : memberTexts value = .error error) :
    ¬ IsIterable value ∧ error = .notAList value.kind := by
  cases value with
  | list => cases failed
  | text => cases failed
  | table => cases failed
  | _ =>
      cases failed
      refine ⟨?_, rfl⟩
      intro absurdity
      cases absurdity

/-- Where the reading ends, something is unfit. -/
theorem isUnfit_of_read (failed : TypedSettings.read settings = .error error) :
    IsUnfit settings error := by
  rcases bind_eq_error.mp failed with logging | ⟨_, _, failed⟩
  · exact isUnfit_of_sectionOf (by decide) logging
  rcases bind_eq_error.mp failed with compile | ⟨compile, found, failed⟩
  · exact isUnfit_of_sectionOf (by decide) compile
  rcases bind_eq_error.mp failed with options | ⟨_, _, failed⟩
  · rcases readCompile_eq_error options with ⟨value, inside, ended⟩
    rcases not_isIterable_of_memberTexts ended with ⟨barred, rfl⟩
    rw [← valueAt?_of_sectionOf found] at inside
    exact .ofPatterns inside barred
  rcases bind_eq_error.mp failed with emit | ⟨_, _, absurdity⟩
  · exact isUnfit_of_sectionOf (by decide) emit
  · cases absurdity

theorem IsReadable.not_isUnfit (readable : IsReadable settings) : ¬ IsUnfit settings error := by
  intro unfit
  cases unfit with
  | ofSection listed found leaf =>
      have isTable := readable.sections _ listed _ found
      rw [leaf] at isTable
      cases isTable
  | ofPatterns found barred => exact barred (readable.exclude _ found)

theorem isReadable_of_read (read : TypedSettings.read settings = .ok typed) :
    IsReadable settings := by
  rcases read_eq_ok read with ⟨logging, compile, emit, loggingFound, compileFound, emitFound, _,
    compileRead, _⟩
  constructor
  · intro name listed
    apply exists_sectionOf_iff.mp
    simp only [sectionNames, List.mem_cons, List.not_mem_nil, or_false] at listed
    rcases listed with rfl | rfl | rfl
    · exact ⟨logging, loggingFound⟩
    · exact ⟨compile, compileFound⟩
    · exact ⟨emit, emitFound⟩
  · intro value found
    rw [valueAt?_of_sectionOf compileFound] at found
    rw [IsIterable, (readCompile_eq_ok compileRead).2 value found]
    rfl

/-- Settings have a reading just if their sections are tables and their patterns can be gone
through. -/
theorem exists_read_iff :
    (∃ typed, TypedSettings.read settings = .ok typed) ↔ IsReadable settings := by
  constructor
  · rintro ⟨typed, read⟩
    exact isReadable_of_read read
  · intro readable
    cases read : TypedSettings.read settings with
    | ok typed => exact ⟨typed, rfl⟩
    | error error => exact absurd (isUnfit_of_read read) readable.not_isUnfit

/-- Levels, formats and sizes fall back. -/
theorem logging_fallsBack (read : TypedSettings.read settings = .ok typed) :
    (IsAtFault settings "logging" "level" (IsTaken toLevel) → typed.logging.level = .info) ∧
      (IsAtFault settings "logging" "format" (IsTaken toFormat) → typed.logging.format = .json) ∧
      (IsAtFault settings "logging" "max_bytes" (IsTaken (toSize 1)) →
        typed.logging.maxBytes = none) ∧
      (IsAtFault settings "logging" "backup_count" (IsTaken (toSize 0)) →
        typed.logging.backupCount = none) := by
  rcases read_eq_ok read with ⟨logging, _, _, found, _, _, same, _, _⟩
  rw [same, readLogging]
  simp only [isAtFault_iff found]
  refine ⟨?_, ?_, ?_, ?_⟩
  all_goals
    rintro ⟨value, given, refused⟩
    rw [given, Option.bind_some]
  · rw [ofName?_of_not_isTaken_level refused, Option.getD_none]
  · rw [ofName?_of_not_isTaken_format refused, Option.getD_none]
  · exact sizeFrom?_of_not_isTaken refused
  · exact sizeFrom?_of_not_isTaken refused

/-- What else falls back: by default a truth value is true, and a file has no name. -/
theorem fallsBack_iff_isMendable (read : TypedSettings.read settings = .ok typed) :
    FallsBack settings typed ↔ IsMendable settings := by
  have readable := isReadable_of_read read
  rcases logging_fallsBack read with ⟨level, format, maxBytes, backupCount⟩
  rcases read_eq_ok read with ⟨logging, compile, emit, loggingFound, compileFound, emitFound,
    loggingRead, compileRead, emitRead⟩
  rcases readCompile_eq_ok compileRead with ⟨minifyRead, excludeRead⟩
  have file : (IsAtFault settings "logging" "file" (IsTaken toText) → typed.logging.file = "") ↔
      ∀ value, valueAt? (.table settings) ["logging", "file"] = some value →
        IsTaken toText value := by
    rw [loggingRead, readLogging, elim_fallsBack_iff loggingFound]
    simp only [or_iff_left_of_imp isTaken_of_shown]
  have minify : (IsAtFault settings "compile" "minify" (IsTaken toTruth) →
      typed.compile.minify = true) ↔
      ∀ value, valueAt? (.table settings) ["compile", "minify"] = some value →
        IsTaken toTruth value ∨ value.isTruthy = true := by
    rw [minifyRead, elim_fallsBack_iff compileFound]
  have checkSyntax : (IsAtFault settings "emit" "check_syntax" (IsTaken toTruth) →
      typed.emit.checkSyntax = true) ↔
      ∀ value, valueAt? (.table settings) ["emit", "check_syntax"] = some value →
        IsTaken toTruth value ∨ value.isTruthy = true := by
    rw [emitRead, readEmit, elim_fallsBack_iff emitFound]
  have exclude : (IsAtFault settings "compile" "exclude" IsTextList → typed.compile.exclude = []) ↔
      ∀ value, valueAt? (.table settings) ["compile", "exclude"] = some value →
        IsTextList value ∨ value = .text "" ∨ value = .table [] := by
    rw [fallsBack_iff compileFound, valueAt?_of_sectionOf compileFound]
    refine forall_congr' fun value => imp_congr_right fun held => ?_
    exact eq_nil_iff_of_memberTexts (excludeRead value held)
  constructor
  · intro promise
    exact ⟨readable, file.mp promise.file, minify.mp promise.minify, exclude.mp promise.exclude,
      checkSyntax.mp promise.checkSyntax⟩
  · intro mendable
    exact ⟨level, format, file.mpr mendable.file, maxBytes, backupCount,
      minify.mpr mendable.minify, exclude.mpr mendable.patterns,
      checkSyntax.mpr mendable.checkSyntax⟩

end Reading

/-! ## Configurations without validation -/

namespace Config

variable {given : Table} {config : Config}

theorem ofTable_unvalidated_eq_ok :
    ofTable given false = .ok config ↔ config.data = merge defaults given ∧ config.sources = [] ∧
      TypedSettings.read (merge defaults given) = .ok config.typed := by
  rw [show ofTable given false = ofMerged (merge defaults given) [] from rfl]
  constructor
  · intro made
    rcases ofMerged_eq_ok made with ⟨data, sources, read⟩
    exact ⟨data, sources, data ▸ read⟩
  · rcases config with ⟨data, sources, typed⟩
    rintro ⟨rfl, rfl, read⟩
    rw [ofMerged, read]

theorem ofTable_unvalidated_eq_error {error : ConfigError} :
    ofTable given false = .error error ↔
      ∃ cause, TypedSettings.read (merge defaults given) = .error cause ∧ error = .shape cause := by
  rw [show ofTable given false = ofMerged (merge defaults given) [] from rfl, ofMerged]
  cases TypedSettings.read (merge defaults given) with
  | ok typed => simp
  | error cause => simp [@eq_comm _ error]

end Config

end Settings

end Stencil
