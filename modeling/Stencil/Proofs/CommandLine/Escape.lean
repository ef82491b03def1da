import Stencil.Proofs.CommandLine.Conversion
import Stencil.Proofs.Value.Part

/-!
Commands without an exit code. A command that is understood ends with one of the documented codes,
unless a pattern for its directory cannot be read or the settings that it shows have no document in
the format asked for.
-/

namespace Stencil.CommandLine

open Ignore (HasBadPattern)
open Settings (bind_eq_error mapError_eq_error)

/-! ## Texts of settings and fields -/

/-- Settings without a document in a format. -/
def IsUnwritable (settings : Table) : ConfigFormat → Prop
  | .toml => Value.IsPart .null (.table settings)
  | .json => ∃ depth part, Value.IsPartAt part depth (.table settings) ∧ Json.IsBarred depth part
  | .yaml => ∃ time, Value.IsPart (.time time) (.table settings)

theorem mapError_eq_error_iff {ε δ α : Type} {widen : ε → δ} {result : Except ε α} :
    (∃ error, result.mapError widen = .error error) ↔ ∃ error, result = .error error := by
  cases result <;> simp [Except.mapError]

theorem settingsText_eq_error_iff {settings : Table} {format : ConfigFormat} :
    (∃ escape, settingsText settings format = .error escape) ↔ IsUnwritable settings format := by
  cases format with
  | toml =>
      rw [settingsText, IsUnwritable, ← Toml.write?_eq_none_iff, tomlText]
      cases Toml.write? settings <;> simp
  | json =>
      rw [settingsText, IsUnwritable, ← Json.write_eq_error_iff, jsonText, mapError_eq_error_iff]
  | yaml =>
      rw [settingsText, IsUnwritable, ← Yaml.write_eq_error_iff, yamlText, mapError_eq_error_iff]

theorem eq_text_of_isPartAt {part : Value} {depth : Nat} {text : String}
    (isPart : Value.IsPartAt part depth (.text text)) : part = .text text := by
  cases isPart with
  | self => rfl
  | inside member below => cases member

/-- The data of fields consist of texts, and of few brackets. -/
theorem part_fieldsData {name : String} {fields : List Field} {part : Value} {depth : Nat}
    (isPart : Value.IsPartAt part depth (.table (fieldsData name fields))) :
    (∃ text, part = .text text) ∨ depth ≤ 2 ∧
      ((∃ members, part = .list members) ∨ ∃ entries, part = .table entries) := by
  cases isPart with
  | self => exact .inr ⟨Nat.zero_le 2, .inr ⟨_, rfl⟩⟩
  | inside member below =>
      simp only [Value.children, fieldsData, List.map_cons, List.map_nil, List.mem_cons,
        List.not_mem_nil, or_false] at member
      rcases member with rfl | rfl
      · exact .inl ⟨name, eq_text_of_isPartAt below⟩
      · cases below with
        | self => exact .inr ⟨Nat.le_succ 1, .inl ⟨_, rfl⟩⟩
        | inside member below =>
            rcases List.mem_map.mp member with ⟨field, _, rfl⟩
            cases below with
            | self => exact .inr ⟨Nat.le_refl 2, .inr ⟨_, rfl⟩⟩
            | inside member below =>
                simp only [Value.children, List.map_cons, List.map_nil, List.mem_cons,
                  List.not_mem_nil, or_false] at member
                rcases member with rfl | rfl
                · exact .inl ⟨_, eq_text_of_isPartAt below⟩
                · exact .inl ⟨_, eq_text_of_isPartAt below⟩

theorem fieldsText_ne_error (name : String) (fields : List Field) (format : FieldsFormat) :
    ¬ ∃ escape, fieldsText name fields format = .error escape := by
  cases format with
  | table => simp [fieldsText]
  | json =>
      rw [fieldsText, jsonText, mapError_eq_error_iff, Json.write_eq_error_iff]
      rintro ⟨depth, part, isPart, barred⟩
      rcases part_fieldsData isPart with ⟨text, rfl⟩ | ⟨shallow, ⟨members, rfl⟩ | ⟨entries, rfl⟩⟩
      · exact barred
      · exact Nat.not_lt.mpr (Nat.le_trans shallow (by decide)) barred
      · exact Nat.not_lt.mpr (Nat.le_trans shallow (by decide)) barred
  | yaml =>
      rw [fieldsText, yamlText, mapError_eq_error_iff, Yaml.write_eq_error_iff]
      rintro ⟨time, depth, isPart⟩
      rcases part_fieldsData isPart with ⟨text, same⟩ | ⟨_, ⟨members, same⟩ | ⟨entries, same⟩⟩
      · cases same
      · cases same
      · cases same

/-! ## Single commands -/

section Commands

variable {session : Session} {files : FileTree}

theorem exitCode_le (kind : FailureKind) : kind.exitCode ≤ 5 := by
  cases kind <;> decide

theorem writeSource_fault {path : Path} {source : String} (noNull : path.hasNull = false)
    {error : FileError} (failed : writeSource files path source = .error error) :
    error.fault ≠ .nullCharacter := by
  rcases bind_eq_error.mp failed with made | ⟨after, _, written⟩
  · exact FileTree.makeDirectories_fault (FileTree.hasNull_parent noNull) made
  · exact FileTree.writeBytes_fault noNull written

theorem exists_deliver (session : Session) (files : FileTree) {output : Option Path}
    (source : String) (noNull : ∀ path ∈ output, path.hasNull = false) :
    ∃ outcome, session.deliver files output source = .ok outcome := by
  cases output with
  | none => exact ⟨_, rfl⟩
  | some path =>
      rw [Session.deliver]
      split
      · rename_i failed
        exact absurd rfl (writeSource_fault (noNull path rfl) failed)
      · exact ⟨_, rfl⟩
      · exact ⟨_, rfl⟩

theorem readHeader_fails {path : Path} (noNull : path.hasNull = false) {error : ConversionError}
    (failed : readHeader files path = .error error) : error.isTold = true := by
  rcases bind_eq_error.mp failed with named | ⟨name, _, failed⟩
  · rcases mapError_eq_error.mp named with ⟨other, _, rfl⟩
    rfl
  · rcases bind_eq_error.mp failed with read | ⟨document, _, failed⟩
    · rcases mapError_eq_error.mp read with ⟨other, unread, rfl⟩
      exact isTold_readText noNull unread
    · rcases bind_eq_error.mp failed with header | ⟨fields, _, absurdity⟩
      · rcases mapError_eq_error.mp header with ⟨other, _, rfl⟩
        rfl
      · cases absurdity

theorem exists_showFields (files : FileTree) {path : Path} (format : FieldsFormat)
    (noNull : path.hasNull = false) :
    ∃ outcome, showFields files path format = .ok outcome := by
  unfold showFields
  split
  · rename_i failed
    cases readHeader_fails noNull failed
  · exact ⟨_, rfl⟩
  · rename_i name fields _
    cases written : fieldsText name fields format with
    | error escape => exact absurd ⟨escape, written⟩ (fieldsText_ne_error name fields format)
    | ok text => exact ⟨showText files text, rfl⟩

theorem showConfig_eq_error_iff {format : ConfigFormat} {name : String} {includeDefaults : Bool} :
    (∃ escape, session.showConfig files format name includeDefaults = .error escape) ↔
      ∃ settings, shownSettings? (session.config.toTable includeDefaults) name = some settings ∧
        IsUnwritable settings format := by
  rw [Session.showConfig]
  cases shownSettings? (session.config.toTable includeDefaults) name with
  | none => simp
  | some settings =>
      simp only [Option.some.injEq, exists_eq_left', ← settingsText_eq_error_iff]
      cases settingsText settings format <;> simp [Except.map]

theorem shown_code {text : Except Escape String} {outcome : Outcome}
    (shown : text.map (showText files) = .ok outcome) : outcome.code ≤ 5 := by
  cases text with
  | error escape => cases shown
  | ok text =>
      cases shown
      exact Nat.zero_le 5

theorem deliver_code {output : Option Path} {source : String} {outcome : Outcome}
    (delivered : session.deliver files output source = .ok outcome) : outcome.code ≤ 5 := by
  rcases Session.deliver_eq_ok delivered with
    ⟨_, rfl⟩ | ⟨path, _, ⟨kind, message, rfl⟩ | ⟨after, told, _, rfl⟩⟩
  · exact Nat.zero_le 5
  · exact exitCode_le kind
  · exact Nat.zero_le 5

theorem convert_code {conversion : Conversion} {outcome : Outcome}
    (converted : session.convert files conversion.path conversion.output conversion.convert =
      .ok outcome) : outcome.code ≤ 5 := by
  cases result : (session.converted files conversion).result with
  | ok source =>
      rw [Session.convert_of_ok result] at converted
      exact deliver_code converted
  | error error =>
      cases told : error.isTold with
      | true =>
          rw [Session.convert_of_told result told] at converted
          cases converted
          exact exitCode_le _
      | false =>
          rcases Session.convert_of_untold result told with ⟨escape, escaped⟩
          rw [escaped] at converted
          cases converted

/-- Whatever a command is, its exit code is one of those that are documented. -/
theorem perform_code {command : Command} {outcome : Outcome}
    (performed : session.perform files command = .ok outcome) : outcome.code ≤ 5 := by
  cases asked : session.conversion? command with
  | some conversion =>
      rw [Session.perform_of_conversion asked] at performed
      exact convert_code performed
  | none =>
      cases command with
      | convertFile path options => cases asked
      | convertDirectory path options => cases asked
      | showFields path format =>
          rw [Session.perform] at performed
          unfold showFields at performed
          split at performed
          · cases performed
          · cases performed
            exact exitCode_le _
          · exact shown_code performed
      | showConfig format name includeDefaults =>
          rw [Session.perform, Session.showConfig] at performed
          split at performed
          · cases performed
            exact exitCode_le .settings
          · exact shown_code performed
      | help =>
          cases performed
          exact Nat.zero_le 5

end Commands

/-! ## Commands that are refused -/

/-- The paths that a command is given. -/
def Command.paths : Command → List Path
  | .convertFile path options | .convertDirectory path options => path :: options.output.toList
  | .showFields path _ => [path]
  | _ => []

/-- A command that ends without an exit code: a directory with a pattern that cannot be read, or
settings that cannot be written. -/
inductive Session.IsRefused (session : Session) (files : FileTree) : Command → Prop where
  | pattern {path : Path} {options : ConversionOptions} {conversion : Conversion}
      {entries : List (String × Entry)}
      (asked : session.conversion? (.convertDirectory path options) = some conversion)
      (found : (session.filesFor files conversion.convert).find path = .ok (.directory entries))
      (bad : HasBadPattern (session.filesFor files conversion.convert) path
        session.config.typed.compile.exclude) :
      IsRefused session files (.convertDirectory path options)
  | settings {format : ConfigFormat} {name : String} {includeDefaults : Bool} {settings : Table}
      (shown : shownSettings? (session.config.toTable includeDefaults) name = some settings)
      (unwritable : IsUnwritable settings format) :
      IsRefused session files (.showConfig format name includeDefaults)

section Refused

variable {session : Session} {files : FileTree}

/-- A conversion escapes just if its error is not told. -/
theorem convert_escapes_iff {conversion : Conversion}
    (noNull : ∀ path ∈ conversion.output, path.hasNull = false) :
    (∃ escape, session.convert files conversion.path conversion.output conversion.convert =
        .error escape) ↔
      ∃ error, (session.converted files conversion).result = .error error ∧
        error.isTold = false := by
  cases result : (session.converted files conversion).result with
  | ok source =>
      rcases exists_deliver session (session.recorded files conversion) source noNull with
        ⟨outcome, delivered⟩
      rw [Session.convert_of_ok result, delivered]
      simp
  | error error =>
      cases told : error.isTold with
      | true =>
          rw [Session.convert_of_told result told]
          simp [told]
      | false => exact iff_of_true (Session.convert_of_untold result told) ⟨error, rfl, told⟩

theorem perform_escapes_iff {command : Command}
    (noNull : ∀ path ∈ command.paths, path.hasNull = false) :
    (∃ escape, session.perform files command = .error escape) ↔
      session.IsRefused files command := by
  cases command with
  | convertFile path options =>
      have asked : session.conversion? (.convertFile path options) = some _ := rfl
      have outputNoNull : ∀ output ∈ options.output, output.hasNull = false := fun output given =>
        noNull output (List.mem_cons_of_mem path (Option.mem_toList.mpr given))
      rw [Session.perform_of_conversion asked, convert_escapes_iff outputNoNull]
      constructor
      · rintro ⟨error, failed, untold⟩
        have told : error.isTold = true :=
          convertFile_fails (noNull path List.mem_cons_self) error failed
        rw [untold] at told
        cases told
      · intro refused
        cases refused
  | convertDirectory path options =>
      have asked : session.conversion? (.convertDirectory path options) = some _ := rfl
      have outputNoNull : ∀ output ∈ options.output, output.hasNull = false := fun output given =>
        noNull output (List.mem_cons_of_mem path (Option.mem_toList.mpr given))
      rw [Session.perform_of_conversion asked, convert_escapes_iff outputNoNull,
        Session.converted, convertDirectory_untold_iff]
      constructor
      · rintro ⟨⟨entries, found⟩, bad⟩
        exact .pattern asked found bad
      · intro refused
        cases refused with
        | pattern sameAsked found bad =>
            cases sameAsked
            exact ⟨⟨_, found⟩, bad⟩
  | showFields path format =>
      rcases exists_showFields files format (noNull path List.mem_cons_self) with
        ⟨outcome, shown⟩
      rw [Session.perform, shown]
      constructor
      · rintro ⟨escape, absurdity⟩
        cases absurdity
      · intro refused
        cases refused
  | showConfig format name includeDefaults =>
      rw [Session.perform, showConfig_eq_error_iff]
      constructor
      · rintro ⟨settings, shown, unwritable⟩
        exact .settings shown unwritable
      · intro refused
        cases refused with
        | settings shown unwritable => exact ⟨_, shown, unwritable⟩
  | help =>
      constructor
      · rintro ⟨escape, absurdity⟩
        cases absurdity
      · intro refused
        cases refused

end Refused

/-- A directory with one template and an ignore file. -/
def ignoringTree (lines : String) : FileTree :=
  ⟨.directory [("t", .directory [
    (Ignore.fileName, .file (Utf8.encode lines)), ("a.html", .file (Utf8.encode "x"))])], []⟩

end Stencil.CommandLine
