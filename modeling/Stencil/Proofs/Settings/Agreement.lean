import Stencil.Settings.Merge
import Stencil.Settings.Validation

/-!
The two readings of settings: the values that validation takes the options for, and the values
that the typed settings have. Settings that validation accepts always have typed settings, and the
two agree on every option but the truth values and the sizes. Those agree as long as no truth value
is given as a word for false, and no size as anything but an integer.
-/

namespace Stencil

namespace Binary64

theorem scale_fst_eq_zero_iff {factor : Nat} (positive : 0 < factor) (exponent : Int)
    (numerator denominator : Nat) :
    (scale factor exponent numerator denominator).1 = 0 ↔ numerator = 0 := by
  have power : factor ^ exponent.toNat ≠ 0 := Nat.ne_of_gt (Nat.pow_pos positive)
  rw [scale]
  split
  · exact Nat.mul_eq_zero.trans (or_iff_left power)
  · exact Iff.rfl

/-- A number is the integer zero only by its mantissa. -/
theorem toInt?_eq_zero_iff {negative : Bool} {mantissa : Nat} {exponent whole : Int}
    (integral : toInt? (.finite negative mantissa exponent) = some whole) :
    whole = 0 ↔ mantissa = 0 := by
  have scaled := scale_fst_eq_zero_iff (by decide : 0 < 2) exponent mantissa 1
  simp only [toInt?] at integral
  generalize scale 2 exponent mantissa 1 = ratio at scaled integral
  rcases ratio with ⟨numerator, denominator⟩
  simp only at scaled integral
  split at integral
  · rename_i divides
    have division := Nat.div_add_mod numerator denominator
    rw [eq_of_beq divides] at division
    have quotient : numerator / denominator = 0 ↔ numerator = 0 := by
      constructor
      · intro zero
        simpa [zero] using division.symm
      · rintro rfl
        exact Nat.zero_div _
    rw [← scaled, ← quotient]
    simp only [Option.some.injEq] at integral
    rw [← Int.natCast_ediv] at integral
    cases negative <;> simp at integral <;> omega
  · exact absurd integral (by simp)

end Binary64

namespace Settings

/-! ## Values on which the readings differ -/

/-- A word that validation takes for false. -/
def IsFalseWord (value : Value) : Prop :=
  ∃ word, value = .text word ∧ truthOfWord? word = some false

/-- A size as it stands for itself, or one that is left open. -/
def IsPlainSize (value : Value) : Prop :=
  value = .null ∨ ∃ size, value = .int size

theorem truthOfInteger?_eq_some {whole : Int} {truth : Bool}
    (taken : truthOfInteger? whole = some truth) : truth = (whole != 0) := by
  rw [truthOfInteger?] at taken
  split at taken
  · simp_all
  · split at taken <;> simp_all

/-- A number that validation takes for a truth value is false only if it is zero. -/
theorem truth_of_wholeNumber {value : Value} {whole : Int} {truth : Bool}
    (number : value.wholeNumber? = some whole) (noBool : ∀ given, value ≠ .bool given)
    (taken : toTruth value = .ok truth) : truth = (whole != 0) := by
  cases value with
  | bool given => exact absurd rfl (noBool given)
  | int given | float given =>
      simp only [toTruth, number] at taken
      split at taken
      · simp at taken
      · cases found : truthOfInteger? whole with
        | none => simp [found] at taken
        | some same =>
            simp only [found, Except.ok.injEq] at taken
            exact taken ▸ truthOfInteger?_eq_some found
  | _ => simp [Value.wholeNumber?] at number

/-- A value counts as true just if validation takes it for true, but for the words for false. -/
theorem isTruthy_eq_iff {value : Value} {truth : Bool} (taken : toTruth value = .ok truth) :
    value.isTruthy = truth ↔ ¬ IsFalseWord value := by
  cases value with
  | bool given =>
      simp only [toTruth, Except.ok.injEq] at taken
      simp [Value.isTruthy, IsFalseWord, taken]
  | text word =>
      have filled : word ≠ "" := by
        rintro rfl
        have unknown : truthOfWord? "" = none := by decide
        simp [toTruth, unknown] at taken
      cases found : truthOfWord? word with
      | none => simp [toTruth, found] at taken
      | some same =>
          simp only [toTruth, found, Except.ok.injEq] at taken
          subst taken
          cases same <;> simp [Value.isTruthy, IsFalseWord, found, filled]
  | int whole =>
      have truthEq := truth_of_wholeNumber rfl (by simp) taken
      simp [Value.isTruthy, IsFalseWord, truthEq]
  | float number =>
      cases integral : number.toInt? with
      | none => simp [toTruth, Value.wholeNumber?, integral] at taken
      | some whole =>
          have counted : (Value.float number).wholeNumber? = some whole := integral
          have truthEq := truth_of_wholeNumber counted (by simp) taken
          cases number with
          | finite negative mantissa exponent =>
              have zero := Binary64.toInt?_eq_zero_iff integral
              have same : (mantissa != 0) = (whole != 0) := by
                rw [Bool.eq_iff_iff]
                simp [zero]
              simp [Value.isTruthy, IsFalseWord, truthEq, same]
          | _ => simp [Binary64.toInt?] at integral
  | _ => simp [toTruth, Value.wholeNumber?] at taken

theorem sizeFrom?_eq_iff {least : Int} {value : Value} {size : Option Int}
    (taken : toSize least value = .ok size) : sizeFrom? least value = size ↔ IsPlainSize value := by
  cases value with
  | null =>
      simp only [toSize, Except.ok.injEq] at taken
      simp [sizeFrom?, IsPlainSize, ← taken]
  | int whole =>
      simp only [toSize, toIntegerFrom, toInteger] at taken
      by_cases enough : least ≤ whole
      · simp_all [sizeFrom?, IsPlainSize, Except.map, bind, Except.bind, pure, Except.pure]
      · simp [enough, Except.map, bind, Except.bind] at taken
  | _ =>
      simp only [toSize] at taken
      generalize toIntegerFrom _ _ = whole at taken
      cases whole with
      | error problem => simp [Except.map] at taken
      | ok whole =>
          simp only [Except.map, Except.ok.injEq] at taken
          simp [sizeFrom?, IsPlainSize, ← taken]

/-! ## Options -/

/-- The value of an option that is missing or that could be taken. -/
theorem checkOption_value {α : Type} {options : Table} {name : String} {default : α}
    {read : Value → Except Problem α}
    (valid : (checkOption options name default read).findings = []) :
    (Table.find? options name = none ∧
        (checkOption options name default read).value = default) ∨
      ∃ value, Table.find? options name = some value ∧
        read value = .ok (checkOption options name default read).value := by
  rw [checkOption] at valid ⊢
  split at valid
  · exact .inl ⟨‹_›, rfl⟩
  · rename_i value found
    split at valid
    · rename_i taken readOk
      exact .inr ⟨value, found, readOk⟩
    · simp at valid

theorem ofName?_of_toLevel {value : Value} {level : LogLevel} (taken : toLevel value = .ok level) :
    (textOf? value).bind LogLevel.ofName? = some level := by
  rw [toLevel] at taken
  split at taken
  · simp_all
  · simp at taken

theorem ofName?_of_toFormat {value : Value} {format : LogFormat}
    (taken : toFormat value = .ok format) :
    (textOf? value).bind LogFormat.ofName? = some format := by
  rw [toFormat] at taken
  split at taken
  · simp_all
  · simp at taken

theorem shown_of_toText {value : Value} {text : String} (taken : toText value = .ok text) :
    value.shown = text := by
  cases value <;> simp_all [toText, Value.shown]

theorem map_shown_eq_checkTexts {position : Nat} {members : List Value}
    (valid : (checkTexts position members).findings = []) :
    members.map Value.shown = (checkTexts position members).value := by
  induction members generalizing position with
  | nil => rfl
  | cons member members induction =>
      rw [checkTexts] at valid ⊢
      split at valid
      · rename_i text taken
        simp only
        rw [List.map_cons, shown_of_toText taken, induction valid]
      · simp at valid

/-! ## Sections -/

/-- The logging settings of either reading, option by option. -/
theorem readLogging_of_valid {options : Table} (valid : (checkLogging options).findings = []) :
    (readLogging options).level = (checkLogging options).value.level ∧
      (readLogging options).format = (checkLogging options).value.format ∧
      (readLogging options).file = (checkLogging options).value.file ∧
      ((readLogging options).maxBytes = (checkLogging options).value.maxBytes ↔
        ∀ value, Table.find? options "max_bytes" = some value → IsPlainSize value) ∧
      ((readLogging options).backupCount = (checkLogging options).value.backupCount ↔
        ∀ value, Table.find? options "backup_count" = some value → IsPlainSize value) := by
  simp only [checkLogging, List.append_eq_nil_iff] at valid
  rcases valid with ⟨⟨⟨⟨level, format⟩, file⟩, maxBytes⟩, backupCount⟩
  simp only [checkLogging, readLogging]
  refine ⟨?_, ?_, ?_, ?_, ?_⟩
  · rcases checkOption_value level with ⟨missing, default⟩ | ⟨value, found, taken⟩
    · simp [missing, default]
    · simp [found, ofName?_of_toLevel taken]
  · rcases checkOption_value format with ⟨missing, default⟩ | ⟨value, found, taken⟩
    · simp [missing, default]
    · simp [found, ofName?_of_toFormat taken]
  · rcases checkOption_value file with ⟨missing, default⟩ | ⟨value, found, taken⟩
    · simp [missing, default]
    · simp [found, shown_of_toText taken]
  · rcases checkOption_value maxBytes with ⟨missing, default⟩ | ⟨value, found, taken⟩
    · simp [missing, default]
    · simp [found, sizeFrom?_eq_iff taken]
  · rcases checkOption_value backupCount with ⟨missing, default⟩ | ⟨value, found, taken⟩
    · simp [missing, default]
    · simp [found, sizeFrom?_eq_iff taken]

/-- A truth value of either reading. -/
theorem elim_isTruthy_eq_iff {options : Table} {name : String}
    (valid : (checkOption options name true toTruth).findings = []) :
    (Table.find? options name).elim true Value.isTruthy =
        (checkOption options name true toTruth).value ↔
      ∀ value, Table.find? options name = some value → ¬ IsFalseWord value := by
  rcases checkOption_value valid with ⟨missing, default⟩ | ⟨value, found, taken⟩
  · simp [missing, default]
  · simp [found, isTruthy_eq_iff taken]

theorem readCompile_of_valid {options : Table} (valid : (checkCompile options).findings = []) :
    ∃ settings, readCompile options = .ok settings ∧
      settings.exclude = (checkCompile options).value.exclude ∧
      (settings.minify = (checkCompile options).value.minify ↔
        ∀ value, Table.find? options "minify" = some value → ¬ IsFalseWord value) := by
  simp only [checkCompile, List.append_eq_nil_iff] at valid
  rcases valid with ⟨minify, exclude⟩
  have agrees := elim_isTruthy_eq_iff minify
  have members : ((Table.find? options "exclude").map memberTexts).getD (.ok []) =
      .ok (checkExclude options).value := by
    rw [checkExclude] at exclude ⊢
    split at exclude
    · simp [*]
    · simp [*, memberTexts, map_shown_eq_checkTexts exclude]
    · simp at exclude
  refine ⟨⟨(Table.find? options "minify").elim true Value.isTruthy,
    (checkExclude options).value⟩, ?_, rfl, agrees⟩
  simp only [readCompile, members]
  rfl

/-- A section that lenient validation accepts is a table or missing. -/
theorem sectionOf_of_valid {α : Type} {settings : Table} {name model : String}
    {known : List String} {default : α} {check : Table → Checked α}
    (empty : check [] = ⟨[], default⟩)
    (valid : (checkSection .lenient settings name model known default check).findings = []) :
    ∃ options, sectionOf settings name = .ok options ∧ (check options).findings = [] ∧
      (checkSection .lenient settings name model known default check).value =
        (check options).value := by
  rw [checkSection] at valid ⊢
  rw [sectionOf]
  split at valid
  · exact ⟨[], by simp [*], by rw [empty], by simp [*]⟩
  · rename_i options found
    refine ⟨options, by simp [*], ?_, by simp [*]⟩
    simpa [unknownKeys] using valid
  · simp at valid

/-- The value of an option, from the top of the settings. -/
theorem valueAt?_of_sectionOf {settings options : Table} {name : String}
    (found : sectionOf settings name = .ok options) (option : String) :
    valueAt? (.table settings) [name, option] = Table.find? options option := by
  rw [sectionOf] at found
  split at found
  · rename_i missing
    cases found
    rw [valueAt?, missing]
    rfl
  · rename_i present
    cases found
    cases inner : Table.find? options option <;> simp [valueAt?, present, inner]
  · simp at found

/-! ## All settings -/

/-- No truth value is given as a word for false, and no size as anything but an integer. -/
structure IsPlain (settings : Table) : Prop where
  minify : ∀ value, valueAt? (.table settings) ["compile", "minify"] = some value →
    ¬ IsFalseWord value
  checkSyntax : ∀ value, valueAt? (.table settings) ["emit", "check_syntax"] = some value →
    ¬ IsFalseWord value
  maxBytes : ∀ value, valueAt? (.table settings) ["logging", "max_bytes"] = some value →
    IsPlainSize value
  backupCount : ∀ value, valueAt? (.table settings) ["logging", "backup_count"] = some value →
    IsPlainSize value

theorem isPlain_iff {settings logging compile emit : Table}
    (loggingFound : sectionOf settings "logging" = .ok logging)
    (compileFound : sectionOf settings "compile" = .ok compile)
    (emitFound : sectionOf settings "emit" = .ok emit) :
    IsPlain settings ↔
      (∀ value, Table.find? compile "minify" = some value → ¬ IsFalseWord value) ∧
      (∀ value, Table.find? emit "check_syntax" = some value → ¬ IsFalseWord value) ∧
      (∀ value, Table.find? logging "max_bytes" = some value → IsPlainSize value) ∧
      ∀ value, Table.find? logging "backup_count" = some value → IsPlainSize value := by
  rw [← valueAt?_of_sectionOf loggingFound, ← valueAt?_of_sectionOf loggingFound,
    ← valueAt?_of_sectionOf compileFound, ← valueAt?_of_sectionOf emitFound]
  exact ⟨fun plain => ⟨plain.minify, plain.checkSyntax, plain.maxBytes, plain.backupCount⟩,
    fun ⟨minify, checkSyntax, maxBytes, backupCount⟩ =>
      ⟨minify, checkSyntax, maxBytes, backupCount⟩⟩

/-- Settings that have all else in common are equal if their truth values and sizes are. -/
theorem typedSettings_eq_iff {left right : TypedSettings}
    (level : left.logging.level = right.logging.level)
    (format : left.logging.format = right.logging.format)
    (file : left.logging.file = right.logging.file)
    (exclude : left.compile.exclude = right.compile.exclude) :
    left = right ↔ left.compile.minify = right.compile.minify ∧
      left.emit.checkSyntax = right.emit.checkSyntax ∧
      left.logging.maxBytes = right.logging.maxBytes ∧
      left.logging.backupCount = right.logging.backupCount := by
  rcases left with
    ⟨⟨level₁, format₁, file₁, maxBytes₁, backupCount₁⟩, ⟨minify₁, exclude₁⟩, ⟨syntax₁⟩⟩
  rcases right with
    ⟨⟨level₂, format₂, file₂, maxBytes₂, backupCount₂⟩, ⟨minify₂, exclude₂⟩, ⟨syntax₂⟩⟩
  simp only at level format file exclude
  simp only [TypedSettings.mk.injEq, LoggingSettings.mk.injEq, CompileSettings.mk.injEq,
    EmitSettings.mk.injEq, level, format, file, exclude, true_and, and_true]
  constructor
  · rintro ⟨⟨maxBytes, backupCount⟩, minify, checkSyntax⟩
    exact ⟨minify, checkSyntax, maxBytes, backupCount⟩
  · rintro ⟨minify, checkSyntax, maxBytes, backupCount⟩
    exact ⟨⟨maxBytes, backupCount⟩, minify, checkSyntax⟩

/-- Settings without issues have typed settings. These have the level, the format, the file and
the patterns that validation takes, and all that it takes just if the settings are plain. -/
theorem read_of_validate (settings : Table) (valid : validate .lenient settings = []) :
    ∃ accepted typed, accept .lenient settings = .ok accepted ∧
      TypedSettings.read settings = .ok typed ∧
      typed.logging.level = accepted.logging.level ∧
      typed.logging.format = accepted.logging.format ∧
      typed.logging.file = accepted.logging.file ∧
      typed.compile.exclude = accepted.compile.exclude ∧
      (typed = accepted ↔ IsPlain settings) := by
  have noFindings : (check .lenient settings).findings = [] := List.map_eq_nil_iff.mp valid
  have sections := noFindings
  simp only [check, List.append_eq_nil_iff] at sections
  rcases sections with ⟨⟨⟨loggingValid, compileValid⟩, emitValid⟩, -⟩
  rcases sectionOf_of_valid (by rfl) loggingValid with
    ⟨logging, loggingFound, loggingNone, loggingValue⟩
  rcases sectionOf_of_valid (by rfl) compileValid with
    ⟨compile, compileFound, compileNone, compileValue⟩
  rcases sectionOf_of_valid (by rfl) emitValid with ⟨emit, emitFound, emitNone, emitValue⟩
  rcases readLogging_of_valid loggingNone with ⟨level, format, file, maxBytes, backupCount⟩
  rcases readCompile_of_valid compileNone with ⟨compileSettings, compileRead, exclude, minify⟩
  have checkSyntax : (readEmit emit).checkSyntax = (checkEmit emit).value.checkSyntax ↔
      ∀ value, Table.find? emit "check_syntax" = some value → ¬ IsFalseWord value :=
    elim_isTruthy_eq_iff emitNone
  refine ⟨(check .lenient settings).value, ⟨readLogging logging, compileSettings, readEmit emit⟩,
    ?_, ?_, ?_⟩
  · simp [accept, Checked.toExcept, noFindings]
  · simp only [TypedSettings.read, loggingFound, compileFound, compileRead, emitFound, bind,
      Except.bind]
    rfl
  · simp only [check, loggingValue, compileValue, emitValue]
    refine ⟨level, format, file, exclude, ?_⟩
    rw [isPlain_iff loggingFound compileFound emitFound, ← minify, ← checkSyntax, ← maxBytes,
      ← backupCount]
    exact typedSettings_eq_iff level format file exclude

/-- A word for true, a whole number for a truth value and an integer for a size. -/
def plainSettings : Table := [
  ("logging", .table [("level", .text "debug"), ("max_bytes", .int 100), ("backup_count", .null)]),
  ("compile", .table [("minify", .int 0), ("exclude", .list [.text "*.md"])]),
  ("emit", .table [("check_syntax", .text "Yes")])]

theorem read_plainSettings :
    validate .lenient plainSettings = [] ∧ IsPlain plainSettings ∧
      ∃ accepted, accept .lenient plainSettings = .ok accepted ∧
        TypedSettings.read plainSettings = .ok accepted := by
  have valid : validate .lenient plainSettings = [] := rfl
  have plain : IsPlain plainSettings := by
    constructor
    all_goals intro value found
    · have given : value = .int 0 := Option.some.inj (found.symm.trans rfl)
      simp [given, IsFalseWord]
    · have given : value = .text "Yes" := Option.some.inj (found.symm.trans rfl)
      have word : truthOfWord? "Yes" = some true := by decide
      simp [given, IsFalseWord, word]
    · have given : value = .int 100 := Option.some.inj (found.symm.trans rfl)
      simp [given, IsPlainSize]
    · have given : value = .null := Option.some.inj (found.symm.trans rfl)
      simp [given, IsPlainSize]
  rcases read_of_validate plainSettings valid with
    ⟨accepted, typed, acceptOk, readOk, -, -, -, -, equal⟩
  exact ⟨valid, plain, accepted, acceptOk, equal.mpr plain ▸ readOk⟩

/-- A word for false turns minification off for validation and leaves it on in the typed
settings. -/
theorem read_falseWord :
    validate .lenient [("compile", .table [("minify", .text "no")])] = [] ∧
      (accept .lenient [("compile", .table [("minify", .text "no")])]).toOption =
        some { compile := { minify := false } } ∧
      (TypedSettings.read [("compile", .table [("minify", .text "no")])]).toOption =
        some { compile := { minify := true } } :=
  ⟨rfl, rfl, rfl⟩

end Settings
end Stencil
