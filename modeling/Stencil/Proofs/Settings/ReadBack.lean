import Stencil.Proofs.Settings.Difference
import Stencil.Proofs.Settings.Reading

/-!
Settings that are written and read again. A configuration is written with its defaults or without
them. Either document, read as a settings file, gives a configuration that means the same and has
the same typed settings, as long as reading a document gives back what was written to it.
-/

namespace Stencil.Settings

open Value (IsRepresentable isRepresentable_table_iff isRepresentable_table isRepresentable_of_leaf)

/-! ## Values at chains of names -/

theorem isRepresentable_valueAt? {value held : Value} (representable : IsRepresentable value)
    {path : List String} (reached : valueAt? value path = some held) : IsRepresentable held := by
  induction path generalizing value with
  | nil =>
      cases reached
      exact representable
  | cons name later induction =>
      rcases eq_table_of_valueAt? reached with ⟨entries, rfl⟩
      rw [valueAt?_cons, Option.bind_eq_some_iff] at reached
      rcases reached with ⟨value, found, reached⟩
      exact induction ((isRepresentable_table_iff.mp representable).2 name value found) reached

theorem isKeyed_of_isRepresentable {settings : Table}
    (representable : IsRepresentable (.table settings)) : IsKeyed settings :=
  fun _ _ reached =>
    (isRepresentable_table_iff.mp (isRepresentable_valueAt? representable reached)).1

theorem kind_eq_of_valueAt? {left right value other : Value}
    (same : left.sameKinds right = true) {path : List String}
    (found : valueAt? left path = some value) (given : valueAt? right path = some other) :
    value.kind = other.kind := by
  induction path generalizing left right with
  | nil =>
      cases found
      cases given
      exact Value.kind_eq_of_sameKinds same
  | cons name later induction =>
      rcases eq_table_of_valueAt? found with ⟨entries, rfl⟩
      rcases eq_table_of_valueAt? given with ⟨others, rfl⟩
      rw [valueAt?_cons, Option.bind_eq_some_iff] at found given
      rcases found with ⟨lower, foundHere, found⟩
      rcases given with ⟨lower', givenHere, given⟩
      exact induction (Value.sameKinds_of_mem same (Table.mem_of_find? foundHere) givenHere)
        found given

/-! ## Configurations -/

theorem isRepresentable_defaults : IsRepresentable (.table defaults) := by
  have text (value : String) : IsRepresentable (.text value) :=
    isRepresentable_of_leaf nofun nofun rfl
  have truth (value : Bool) : IsRepresentable (.bool value) :=
    isRepresentable_of_leaf nofun nofun rfl
  have empty : IsRepresentable (.list []) := isRepresentable_of_leaf nofun nofun rfl
  refine isRepresentable_table (by decide) ?_
  simp only [defaults, List.forall_mem_cons, List.not_mem_nil, false_imp_iff, implies_true,
    and_true]
  refine ⟨?_, ?_, ?_⟩
  · exact isRepresentable_table (by decide) (by simp [text])
  · exact isRepresentable_table (by decide) (by simp [truth, empty])
  · exact isRepresentable_table (by decide) (by simp [truth])

namespace Config

theorem requireValid_eq_ok_iff {data : Table} {source : Option String} :
    requireValid data source = .ok () ↔ validate .lenient data = [] := by
  rw [requireValid, validate]
  cases found : (check .lenient data).findings with
  | nil => simp [firstError?]
  | cons finding later =>
      simp [firstError?, Finding.toIssue]

/-- A configuration from a table is that of its settings over the defaults, which are valid. -/
theorem ofTable_eq_ok {settings : Table} {config : Config}
    (made : ofTable settings true = .ok config) :
    config.data = merge defaults settings ∧ validate .lenient config.data = [] ∧
      TypedSettings.read config.data = .ok config.typed := by
  rcases bind_eq_ok.mp made with ⟨_, valid, made⟩
  rcases ofMerged_eq_ok made with ⟨data, _, read⟩
  rw [data]
  exact ⟨rfl, requireValid_eq_ok_iff.mp valid, data ▸ read⟩

theorem loadTable_of_read {tree : FileTree} {path : Path} {bytes : Utf8.Bytes} {document : String}
    {settings : Table} (holds : tree.readBytes path = .ok bytes)
    (decodes : Utf8.decode bytes = .ok document) (reads : Toml.read document = .ok settings) :
    loadTable tree path = .ok settings := by
  rw [loadTable, holds]
  simp only
  rw [decodes]
  simp only
  rw [reads]

theorem ofFile_of_loadTable {tree : FileTree} {path : Path} {settings : Table}
    {typed : TypedSettings} (loaded : loadTable tree path = .ok settings)
    (valid : validate .lenient (merge defaults settings) = [])
    (read : TypedSettings.read (merge defaults settings) = .ok typed) :
    ∃ config, ofFile tree path true = .ok config ∧ config.data = merge defaults settings ∧
      config.typed = typed := by
  let sources : List Source := [⟨.project, some path, true, settings⟩]
  refine ⟨⟨merge defaults settings, sources, typed⟩, ?_, rfl, rfl⟩
  apply bind_eq_ok.mpr
  refine ⟨settings, mapError_eq_ok.mpr loaded, ?_⟩
  apply bind_eq_ok.mpr
  refine ⟨(), requireValid_eq_ok_iff.mpr valid, ?_⟩
  show ofMerged (merge defaults settings) sources = _
  rw [ofMerged, read]

end Config

/-! ## Reading back -/

section ReadBack

variable {config : Config} {includeDefaults : Bool}

theorem isRepresentable_toTable (representable : IsRepresentable (.table config.data)) :
    IsRepresentable (.table (config.toTable includeDefaults)) := by
  cases includeDefaults with
  | false => exact isRepresentable_differences defaults representable
  | true => exact representable

/-- With the defaults or without them, a configuration is restored by whatever means the same when
it is merged over the defaults. -/
theorem means_merge_toTable {read : Table} (isOver : IsOver defaults config.data)
    (keyed : IsKeyed config.data)
    (same : (Value.table (config.toTable includeDefaults)).means (.table read) = true) :
    (Value.table config.data).means (.table (merge defaults read)) = true := by
  cases includeDefaults with
  | false => exact means_merge_differences isKeyed_defaults isOver keyed same
  | true => exact means_merge_of_means isKeyed_defaults isOver keyed same

/-- Where there is no default, a value keeps its kind. -/
theorem kind_eq_of_toTable {read : Table} (keyed : IsKeyed config.data) (readKeyed : IsKeyed read)
    (kinds : (Value.table (config.toTable includeDefaults)).sameKinds (.table read) = true)
    {path : List String} (unbound : valueAt? (.table defaults) path = none) {value other : Value}
    (found : valueAt? (.table config.data) path = some value)
    (given : valueAt? (.table (merge defaults read)) path = some other) :
    value.kind = other.kind := by
  rw [valueAt?_merge_of_unbound readKeyed unbound] at given
  have written : valueAt? (.table (config.toTable includeDefaults)) path = some value := by
    cases includeDefaults with
    | false => exact (valueAt?_differences keyed unbound).trans found
    | true => exact found
  exact kind_eq_of_valueAt? kinds written given

/-- A settings file that holds what a configuration writes has a configuration like it. -/
theorem ofFile_of_loadTable_toTable {tree : FileTree} {path : Path} {read : Table}
    (isOver : IsOver defaults config.data) (keyed : IsKeyed config.data)
    (valid : validate .lenient config.data = [])
    (typed : TypedSettings.read config.data = .ok config.typed)
    (loaded : loadTable tree path = .ok read)
    (same : (Value.table (config.toTable includeDefaults)).means (.table read) = true)
    (kinds : (Value.table (config.toTable includeDefaults)).sameKinds (.table read) = true) :
    ∃ again, Config.ofFile tree path true = .ok again ∧
      (Value.table config.data).means (.table again.data) = true ∧ again.typed = config.typed := by
  have restored := means_merge_toTable isOver keyed same
  have readKeyed := Config.isKeyed_loadTable loaded
  have sizeKinds : ∀ name ∈ sizeOptions, ∀ value other,
      valueAt? (.table config.data) ["logging", name] = some value →
        valueAt? (.table (merge defaults read)) ["logging", name] = some other →
          value.kind = other.kind := by
    intro name isSize value other found given
    -- No size has a default, so each comes from the file and is of the kind that was written.
    refine kind_eq_of_toTable keyed readKeyed kinds ?_ found given
    simp only [sizeOptions, List.mem_cons, List.not_mem_nil, or_false] at isSize
    rcases isSize with rfl | rfl <;> rfl
  rcases read_eq_of_means keyed restored sizeKinds valid with ⟨validAgain, readAgain⟩
  rcases Config.ofFile_of_loadTable loaded validAgain (readAgain.symm.trans typed) with
    ⟨again, made, data, typedAgain⟩
  exact ⟨again, made, data ▸ restored, typedAgain⟩

end ReadBack

/-- Written configurations read back. The difference from the defaults, merged over them, means the
same as the settings themselves; nothing in it means the same as the default in its place; and
every document of a configuration, with the defaults or without, is a settings file of a
configuration that means the same and has the same typed settings. -/
theorem ofFile_written (settings : Table) (config : Config)
    (representable : IsRepresentable (.table settings))
    (accepted : Config.ofTable settings true = .ok config)
    (inverts : ∀ includeDefaults document,
      Toml.write? (config.toTable includeDefaults) = some document →
        ∃ read, Toml.read document = .ok read ∧
          (Value.table (config.toTable includeDefaults)).means (.table read) = true ∧
          (Value.table (config.toTable includeDefaults)).sameKinds (.table read) = true) :
    (Value.table (config.toTable true)).means
      (.table (merge defaults (config.toTable false))) = true ∧
    (∀ name later left default,
      valueAt? (.table (config.toTable false)) (name :: later) = some left →
        valueAt? (.table defaults) (name :: later) = some default → left.means default = false) ∧
    ∀ includeDefaults, ∃ document,
      Toml.write? (config.toTable includeDefaults) = some document ∧
      ∀ tree path bytes, FileTree.readBytes tree path = .ok bytes →
        Utf8.decode bytes = .ok document →
          ∃ again, Config.ofFile tree path true = .ok again ∧
            (Value.table (config.toTable true)).means (.table (again.toTable true)) = true ∧
            again.typed = config.typed := by
  rcases Config.ofTable_eq_ok accepted with ⟨data, valid, typed⟩
  have isOver : IsOver defaults config.data :=
    ⟨settings, isKeyed_of_isRepresentable representable, data⟩
  have dataRepresentable : IsRepresentable (.table config.data) :=
    data ▸ isRepresentable_merge isRepresentable_defaults representable
  have keyed := isKeyed_of_isRepresentable dataRepresentable
  refine ⟨?_, ?_, ?_⟩
  · exact means_merge_toTable isOver keyed
      (Value.means_self (isRepresentable_toTable dataRepresentable))
  · intro name later left default held bound
    exact means_eq_false_of_valueAt? keyed held bound
  · intro includeDefaults
    have present := (@isRepresentable_toTable _ includeDefaults dataRepresentable).present
    rcases Option.ne_none_iff_exists'.mp (mt Toml.write?_eq_none_iff.mp present) with
      ⟨document, written⟩
    refine ⟨document, written, ?_⟩
    intro tree path bytes holds decodes
    rcases inverts includeDefaults document written with ⟨read, reads, same, kinds⟩
    exact ofFile_of_loadTable_toTable isOver keyed valid typed
      (Config.loadTable_of_read holds decodes reads) same kinds

/-- Sizes of two kinds, a number in the place of a truth value that means the same, and an empty
table under a key that nothing reads. -/
def mixedSettings : Table := [
  ("logging", .table [("max_bytes", .int 9), ("backup_count", .float (.ofInt 3))]),
  ("compile", .table [("minify", .int 1), ("cache", .table [])])]

def mixedConfig : Config where
  data := merge defaults mixedSettings
  sources := []
  typed := { logging := { maxBytes := some 9 } }

def mixedDocument : String :=
  "[logging]\nmax_bytes = 9\nbackup_count = 3.0\n\n[compile.cache]\n"

/-- A file tree with the document at its root. -/
def mixedTree : FileTree :=
  ⟨.directory [("mixed.toml", .file (Utf8.encode mixedDocument))], []⟩

theorem isRepresentable_mixedSettings : IsRepresentable (.table mixedSettings) := by
  have size : IsRepresentable (.int 9) := isRepresentable_of_leaf nofun nofun rfl
  have count : IsRepresentable (.float (.ofInt 3)) := by
    refine isRepresentable_of_leaf nofun ?_ rfl
    rw [ne_eq, Value.float.injEq]
    decide
  have truth : IsRepresentable (.int 1) := isRepresentable_of_leaf nofun nofun rfl
  have empty : IsRepresentable (.table []) := isRepresentable_of_leaf nofun nofun rfl
  refine isRepresentable_table (by decide) ?_
  simp only [mixedSettings, List.forall_mem_cons, List.not_mem_nil, false_imp_iff, implies_true,
    and_true]
  constructor
  · exact isRepresentable_table (by decide) (by simp [size, count])
  · exact isRepresentable_table (by decide) (by simp [truth, empty])

theorem ofFile_mixedDocument :
    Config.ofTable mixedSettings true = .ok mixedConfig ∧
      Toml.write? (mixedConfig.toTable false) = some mixedDocument ∧
      ∃ again, Config.ofFile mixedTree (Path.ofString "/mixed.toml") true = .ok again ∧
        (Value.table (mixedConfig.toTable true)).means (.table (again.toTable true)) = true ∧
        again.typed = { logging := { maxBytes := some 9 } } := by
  have accepted : Config.ofTable mixedSettings true = .ok mixedConfig := rfl
  have inverts : ∀ includeDefaults document,
      Toml.write? (mixedConfig.toTable includeDefaults) = some document →
        ∃ read, Toml.read document = .ok read ∧
          (Value.table (mixedConfig.toTable includeDefaults)).means (.table read) = true ∧
          (Value.table (mixedConfig.toTable includeDefaults)).sameKinds (.table read) = true := by
    intro includeDefaults document written
    have evaluated : ((Toml.write? (mixedConfig.toTable includeDefaults)).any fun document =>
        (Toml.read document).toOption.any fun read =>
          (Value.table (mixedConfig.toTable includeDefaults)).means (.table read) &&
            (Value.table (mixedConfig.toTable includeDefaults)).sameKinds (.table read)) =
              true := by
      cases includeDefaults <;> decide +kernel
    rw [written, Option.any_some] at evaluated
    cases reads : Toml.read document with
    | error fault =>
        rw [reads] at evaluated
        cases evaluated
    | ok read =>
        rw [reads, Except.toOption, Option.any_some, Bool.and_eq_true] at evaluated
        exact ⟨read, rfl, evaluated⟩
  have document : Toml.write? (mixedConfig.toTable false) = some mixedDocument := by decide +kernel
  have decodes : (Utf8.decode (Utf8.encode mixedDocument)) = .ok mixedDocument := by decide +kernel
  rcases ofFile_written mixedSettings mixedConfig isRepresentable_mixedSettings accepted
    inverts with ⟨_, _, written⟩
  rcases written false with ⟨same, found, reread⟩
  cases found.symm.trans document
  exact ⟨accepted, document, reread mixedTree (Path.ofString "/mixed.toml") _ (by rfl) decodes⟩

end Stencil.Settings
