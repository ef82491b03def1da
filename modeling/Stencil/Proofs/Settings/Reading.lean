import Stencil.Proofs.Settings.Validity
import Stencil.Proofs.Value.Meaning

/-!
Settings that mean the same are valid alike and have one typed reading, as long as their sizes are
of the same kinds. A size is taken only if it is an integer, so `5` and `5.0` are not one size;
every other option is told by its meaning alone.
-/

namespace Stencil.Settings

open Table (matches_iff)
open Value (cases_of_means numbers_of_sameNumber? means_table_iff)

/-! ## Values -/

section Values

variable {left right : Value}

theorem textOf?_eq_of_means (same : left.means right = true) : textOf? left = textOf? right := by
  have noText {value : Value} (number : value.isNumber = true) : textOf? value = none := by
    cases value <;> first | rfl | cases number
  rcases cases_of_means same with
    rfl | number | ⟨_, _, rfl, rfl⟩ | ⟨_, _, rfl, rfl, _⟩ | ⟨_, _, rfl, rfl⟩
  · rfl
  · rcases numbers_of_sameNumber? number with ⟨leftNumber, rightNumber, _⟩
    rw [noText leftNumber, noText rightNumber]
  all_goals rfl

theorem toLevel_eq_of_means (same : left.means right = true) : toLevel left = toLevel right := by
  rw [toLevel, textOf?_eq_of_means same, toLevel]

theorem toFormat_eq_of_means (same : left.means right = true) : toFormat left = toFormat right := by
  rw [toFormat, textOf?_eq_of_means same, toFormat]

theorem toText_eq (value : Value) :
    toText value = (textOf? value).elim (.error .text) .ok := by
  cases value <;> rfl

theorem toText_eq_of_means (same : left.means right = true) : toText left = toText right := by
  rw [toText_eq, toText_eq, textOf?_eq_of_means same]

/-- A text is told by its meaning. -/
theorem eq_of_means_text {text : String} (taken : toText left = .ok text)
    (same : left.means right = true) : left = right := by
  cases left with
  | text first =>
      cases right with
      | text second => simpa [Value.means] using same
      | _ => simp [Value.means] at same
  | _ => cases taken

/-- A number is taken for a truth value by the integer that it is. -/
theorem toTruth_of_isNumber (number : left.isNumber = true) :
    toTruth left = match left.wholeNumber? with
      | none => .error .truth
      | some whole => toTruth (.int whole) := by
  cases left with
  | bool value => cases value <;> rfl
  | int value => rfl
  | float value =>
      rw [Value.wholeNumber?]
      cases whole : value.toInt? <;> simp [toTruth, Value.wholeNumber?, whole]
  | _ => cases number

theorem toTruth_eq_of_means (same : left.means right = true) : toTruth left = toTruth right := by
  rcases cases_of_means same with
    rfl | number | ⟨_, _, rfl, rfl⟩ | ⟨_, _, rfl, rfl, _⟩ | ⟨_, _, rfl, rfl⟩
  · rfl
  · rcases numbers_of_sameNumber? number with ⟨leftNumber, rightNumber, whole⟩
    rw [toTruth_of_isNumber leftNumber, toTruth_of_isNumber rightNumber, whole]
  all_goals rfl

/-- A size is told by its meaning and its kind. -/
theorem toSize_eq_of_means (least : Int) (same : left.means right = true)
    (kind : left.kind = right.kind) :
    toSize least left = toSize least right ∧ sizeFrom? least left = sizeFrom? least right := by
  rcases cases_of_means same with
    rfl | number | ⟨_, _, rfl, rfl⟩ | ⟨_, _, rfl, rfl, _⟩ | ⟨_, _, rfl, rfl⟩
  · exact ⟨rfl, rfl⟩
  · rcases Value.eq_or_float_of_kind number kind with rfl | ⟨first, second, rfl, rfl, value⟩
    · exact ⟨rfl, rfl⟩
    · have whole : toInteger (.float first) = toInteger (.float second) := by
        simp only [toInteger, Binary64.isFinite_eq_of_sameValue value,
          Binary64.toInt?_eq_of_sameValue value]
      have size (value : Binary64) :
          toSize least (.float value) = (toIntegerFrom least (.float value)).map some := rfl
      refine ⟨?_, rfl⟩
      rw [size, size, toIntegerFrom, toIntegerFrom, whole]
  all_goals exact ⟨rfl, rfl⟩

theorem eq_of_meansAll_texts {position : Nat} {members others : List Value}
    (valid : (checkTexts position members).findings = [])
    (same : Value.meansAll members others = true) : members = others := by
  induction members generalizing position others with
  | nil =>
      cases others with
      | nil => rfl
      | cons other later => cases same
  | cons member members induction =>
      cases others with
      | nil => cases same
      | cons other others =>
          rw [Value.meansAll, Bool.and_eq_true] at same
          rw [checkTexts] at valid
          split at valid
          · rename_i text taken
            rw [eq_of_means_text taken same.1, induction valid same.2]
          · cases valid

end Values

/-! ## Options -/

section Rel

variable {β : Type} {related : Value → Value → Prop} {found other : Option Value}

theorem bind_eq_of_rel (same : Option.Rel related found other) {read : Value → Option β}
    (agree : ∀ value like, found = some value → other = some like → related value like →
      read value = read like) : found.bind read = other.bind read := by
  cases same with
  | none => rfl
  | some like => exact agree _ _ rfl rfl like

theorem elim_eq_of_rel (same : Option.Rel related found other) {default : β} {read : Value → β}
    (agree : ∀ value like, found = some value → other = some like → related value like →
      read value = read like) : found.elim default read = other.elim default read := by
  cases same with
  | none => rfl
  | some like => exact agree _ _ rfl rfl like

end Rel

/-- The options that are told by their kind beside their meaning. -/
def sizeOptions : List String := ["max_bytes", "backup_count"]

/-- Options that mean the same. -/
def IsAlike (options others : Table) : Prop :=
  ∀ name, Value.Agree (Table.find? options name) (Table.find? others name)

namespace IsAlike

variable {options others : Table} {name : String}

theorem checkOption (alike : IsAlike options others) {α : Type} {default : α}
    {read : Value → Except Problem α}
    (agree : ∀ value other, Table.find? options name = some value →
      Table.find? others name = some other → value.means other = true → read value = read other)
    (valid : (checkOption options name default read).findings = []) :
    (checkOption others name default read).findings = [] := by
  rw [checkOption_eq_nil_iff] at valid ⊢
  intro other given
  have same := alike name
  rw [given] at same
  cases found : Table.find? options name with
  | none =>
      rw [found] at same
      cases same
  | some value =>
      rw [found] at same
      cases same with
      | some like => exact agree value other found given like ▸ valid value found

theorem shown (alike : IsAlike options others)
    (valid : (Settings.checkOption options name "" toText).findings = []) :
    (Table.find? options name).elim "" Value.shown =
      (Table.find? others name).elim "" Value.shown := by
  apply elim_eq_of_rel (alike name)
  intro value other found _ same
  have taken := checkOption_eq_nil_iff.mp valid value found
  cases text : toText value with
  | error problem =>
      rw [text] at taken
      cases taken
  | ok text => rw [eq_of_means_text text same]

theorem logging (alike : IsAlike options others)
    (kinds : ∀ name ∈ sizeOptions, ∀ value other,
      Table.find? options name = some value → Table.find? others name = some other →
        value.kind = other.kind)
    (valid : (checkLogging options).findings = []) :
    (checkLogging others).findings = [] ∧ readLogging options = readLogging others := by
  have size {name : String} (isSize : name ∈ sizeOptions) (least : Int)
      (value other : Value) (found : Table.find? options name = some value)
      (given : Table.find? others name = some other) (same : value.means other = true) :=
    toSize_eq_of_means least same (kinds name isSize value other found given)
  simp only [checkLogging, List.append_eq_nil_iff] at valid ⊢
  rcases valid with ⟨⟨⟨⟨level, format⟩, file⟩, maxBytes⟩, backupCount⟩
  constructor
  · refine ⟨⟨⟨⟨?_, ?_⟩, ?_⟩, ?_⟩, ?_⟩
    · exact alike.checkOption (fun _ _ _ _ same => toLevel_eq_of_means same) level
    · exact alike.checkOption (fun _ _ _ _ same => toFormat_eq_of_means same) format
    · exact alike.checkOption (fun _ _ _ _ same => toText_eq_of_means same) file
    · exact alike.checkOption (fun value other found given same =>
        (size (by simp [sizeOptions]) 1 value other found given same).1) maxBytes
    · exact alike.checkOption (fun value other found given same =>
        (size (by simp [sizeOptions]) 0 value other found given same).1) backupCount
  · have levelSame : (Table.find? options "level").bind (fun value =>
        (textOf? value).bind LogLevel.ofName?) = (Table.find? others "level").bind fun value =>
          (textOf? value).bind LogLevel.ofName? :=
      bind_eq_of_rel (alike "level") fun _ _ _ _ same => by rw [textOf?_eq_of_means same]
    have formatSame : (Table.find? options "format").bind (fun value =>
        (textOf? value).bind LogFormat.ofName?) = (Table.find? others "format").bind fun value =>
          (textOf? value).bind LogFormat.ofName? :=
      bind_eq_of_rel (alike "format") fun _ _ _ _ same => by rw [textOf?_eq_of_means same]
    have maxBytesSame : (Table.find? options "max_bytes").bind (sizeFrom? 1) =
        (Table.find? others "max_bytes").bind (sizeFrom? 1) :=
      bind_eq_of_rel (alike "max_bytes") fun value other found given same =>
        (size (by simp [sizeOptions]) 1 value other found given same).2
    have backupCountSame : (Table.find? options "backup_count").bind (sizeFrom? 0) =
        (Table.find? others "backup_count").bind (sizeFrom? 0) :=
      bind_eq_of_rel (alike "backup_count") fun value other found given same =>
        (size (by simp [sizeOptions]) 0 value other found given same).2
    rw [readLogging, readLogging, levelSame, formatSame, alike.shown file, maxBytesSame,
      backupCountSame]

theorem truth (alike : IsAlike options others) (name : String) :
    (Table.find? options name).elim true Value.isTruthy =
      (Table.find? others name).elim true Value.isTruthy :=
  elim_eq_of_rel (alike name) fun _ _ _ _ same => Value.isTruthy_eq_of_means same

theorem exclude (alike : IsAlike options others) (valid : (checkExclude options).findings = []) :
    Table.find? options "exclude" = Table.find? others "exclude" := by
  rw [checkExclude_eq_nil_iff] at valid
  have same := alike "exclude"
  cases found : Table.find? options "exclude" with
  | none =>
      rw [found] at same
      exact ((Table.eq_none_iff_of_rel same).mp rfl).symm
  | some value =>
      rw [found] at same
      rcases Table.exists_of_rel same with ⟨other, given, like⟩
      rcases valid value found with ⟨members, rfl, texts⟩
      cases other with
      | list members' =>
          rw [Value.means] at like
          rw [given, eq_of_meansAll_texts texts like]
      | _ => simp [Value.means] at like

theorem compile (alike : IsAlike options others) (valid : (checkCompile options).findings = []) :
    (checkCompile others).findings = [] ∧ readCompile options = readCompile others := by
  simp only [checkCompile, List.append_eq_nil_iff] at valid ⊢
  rcases valid with ⟨minify, exclude⟩
  have excludeSame := alike.exclude exclude
  refine ⟨⟨?_, ?_⟩, ?_⟩
  · exact alike.checkOption (fun _ _ _ _ same => toTruth_eq_of_means same) minify
  · rw [checkExclude_eq_nil_iff] at exclude ⊢
    rwa [← excludeSame]
  · rw [readCompile, readCompile, excludeSame, alike.truth "minify"]

theorem emit (alike : IsAlike options others) (valid : (checkEmit options).findings = []) :
    (checkEmit others).findings = [] ∧ readEmit options = readEmit others := by
  refine ⟨alike.checkOption (fun _ _ _ _ same => toTruth_eq_of_means same) valid, ?_⟩
  rw [readEmit, readEmit, alike.truth "check_syntax"]

end IsAlike

/-! ## Sections -/

/-- Settings that mean the same have sections that mean the same. -/
theorem sectionOf_of_means {settings restored options : Table} {name : String}
    (keyed : IsKeyed settings)
    (same : (Value.table settings).means (.table restored) = true)
    (found : sectionOf settings name = .ok options) :
    ∃ others, sectionOf restored name = .ok others ∧ IsAlike options others := by
  rcases isKeyed_iff.mp keyed with ⟨distinct, inside⟩
  have related := ((matches_iff distinct).mp (means_table_iff.mp same)).2 name
  rw [sectionOf] at found
  split at found
  · rename_i missing
    cases found
    rw [missing] at related
    refine ⟨[], ?_, fun _ => .none⟩
    rw [sectionOf, (Table.eq_none_iff_of_rel related).mp rfl]
  · rename_i present
    cases found
    rw [present] at related
    rcases Table.exists_of_rel related with ⟨other, given, like⟩
    rcases Value.eq_table_of_means like with ⟨others, rfl⟩
    have optionsDistinct := (isKeyed_iff.mp (inside name options present)).1
    refine ⟨others, ?_, ((matches_iff optionsDistinct).mp (means_table_iff.mp like)).2⟩
    rw [sectionOf, given]
  · cases found

/-- A section whose options pass passes. -/
theorem checkSection_of_sectionOf {α : Type} {settings options : Table} {name model : String}
    {known : List String} {default : α} {check : Table → Checked α}
    (found : sectionOf settings name = .ok options) (valid : (check options).findings = []) :
    (checkSection .lenient settings name model known default check).findings = [] := by
  rw [checkSection_eq_nil_iff]
  intro value given
  rw [sectionOf, given] at found
  cases value with
  | table entries =>
      cases found
      exact ⟨options, rfl, valid⟩
  | _ => cases found

/-- Valid settings pass on their validity and their typed reading to settings that mean the same
and have sizes of the same kinds. -/
theorem read_eq_of_means {settings restored : Table} (keyed : IsKeyed settings)
    (same : (Value.table settings).means (.table restored) = true)
    (kinds : ∀ name ∈ sizeOptions, ∀ value other,
      valueAt? (.table settings) ["logging", name] = some value →
        valueAt? (.table restored) ["logging", name] = some other → value.kind = other.kind)
    (valid : validate .lenient settings = []) :
    validate .lenient restored = [] ∧
      TypedSettings.read settings = TypedSettings.read restored := by
  rw [validate_eq_nil_iff] at valid ⊢
  rcases valid with ⟨loggingValid, compileValid, emitValid⟩
  rcases sectionOf_of_valid (by rfl) loggingValid with ⟨logging, loggingFound, loggingNone, -⟩
  rcases sectionOf_of_valid (by rfl) compileValid with ⟨compile, compileFound, compileNone, -⟩
  rcases sectionOf_of_valid (by rfl) emitValid with ⟨emit, emitFound, emitNone, -⟩
  rcases sectionOf_of_means keyed same loggingFound with ⟨logging', loggingFound', loggingAlike⟩
  rcases sectionOf_of_means keyed same compileFound with ⟨compile', compileFound', compileAlike⟩
  rcases sectionOf_of_means keyed same emitFound with ⟨emit', emitFound', emitAlike⟩
  have loggingKinds : ∀ name ∈ sizeOptions, ∀ value other,
      Table.find? logging name = some value → Table.find? logging' name = some other →
        value.kind = other.kind := by
    intro name isSize value other found given
    rw [← valueAt?_of_sectionOf loggingFound] at found
    rw [← valueAt?_of_sectionOf loggingFound'] at given
    exact kinds name isSize value other found given
  rcases loggingAlike.logging loggingKinds loggingNone with ⟨loggingNone', loggingRead⟩
  rcases compileAlike.compile compileNone with ⟨compileNone', compileRead⟩
  rcases emitAlike.emit emitNone with ⟨emitNone', emitRead⟩
  refine ⟨⟨?_, ?_, ?_⟩, ?_⟩
  · exact checkSection_of_sectionOf loggingFound' loggingNone'
  · exact checkSection_of_sectionOf compileFound' compileNone'
  · exact checkSection_of_sectionOf emitFound' emitNone'
  · rw [TypedSettings.read, TypedSettings.read, loggingFound, loggingFound', compileFound,
      compileFound', emitFound, emitFound']
    simp only [bind, Except.bind, loggingRead, compileRead, emitRead]

end Stencil.Settings
