import Stencil.Proofs.Settings.Layers
import Stencil.Proofs.Settings.Variables
import Stencil.Proofs.Toml.Keyed

/-!
Merging keeps settings valid. A section is taken only if it is a table, and no option takes a
table, so a merged section holds under each of its options a value that one of the two sections
had there. Settings of all sources that are refused are therefore the fault of a single source.
-/

namespace Stencil.Settings

/-! ## Options -/

section Options

variable {base override : Table} {name : String}

/-- Under a key where no table can be taken, a merged table holds what one of the two held. -/
theorem taken_of_merge {taken : Value → Prop} (noTable : ∀ entries, ¬ taken (.table entries))
    (distinct : (Table.keys override).Nodup)
    (ofBase : ∀ value, Table.find? base name = some value → taken value)
    (ofOverride : ∀ value, Table.find? override name = some value → taken value) {value : Value}
    (found : Table.find? (merge base override) name = some value) : taken value := by
  rw [merge, find?_mergeEntries distinct] at found
  cases given : Table.find? override name with
  | none =>
      rw [given, Option.elim_none] at found
      exact ofBase value found
  | some other =>
      have otherTaken := ofOverride other given
      have leaf : other.isTable = false := by
        cases other with
        | table entries => exact absurd otherTaken (noTable entries)
        | _ => rfl
      rw [given, Option.elim_some, mergeValue_of_leaf leaf] at found
      exact Option.some.inj found ▸ otherTaken

variable {α : Type} {default : α} {read : Value → Except Problem α}

theorem checkOption_eq_nil_iff {options : Table} :
    (checkOption options name default read).findings = [] ↔
      ∀ value, Table.find? options name = some value → (read value).isOk = true := by
  rw [checkOption]
  cases Table.find? options name with
  | none => simp
  | some value => cases taken : read value <;> simp [taken, Except.isOk, Except.toBool]

theorem checkOption_merge (distinct : (Table.keys override).Nodup)
    (baseValid : (checkOption base name default read).findings = [])
    (overrideValid : (checkOption override name default read).findings = [])
    (noTable : ∀ entries, (read (.table entries)).isOk = false) :
    (checkOption (merge base override) name default read).findings = [] := by
  rw [checkOption_eq_nil_iff] at baseValid overrideValid ⊢
  have barred (entries : Table) : ¬ (read (.table entries)).isOk = true := by
    simp [noTable entries]
  intro value found
  exact taken_of_merge barred distinct baseValid overrideValid found

theorem checkExclude_eq_nil_iff {options : Table} :
    (checkExclude options).findings = [] ↔
      ∀ value, Table.find? options "exclude" = some value →
        ∃ members, value = .list members ∧ (checkTexts 0 members).findings = [] := by
  rw [checkExclude]
  cases Table.find? options "exclude" with
  | none => simp
  | some value => cases value <;> simp

theorem checkExclude_merge (distinct : (Table.keys override).Nodup)
    (baseValid : (checkExclude base).findings = [])
    (overrideValid : (checkExclude override).findings = []) :
    (checkExclude (merge base override)).findings = [] := by
  rw [checkExclude_eq_nil_iff] at baseValid overrideValid ⊢
  intro value found
  exact taken_of_merge (by simp) distinct baseValid overrideValid found

end Options

/-! ## Sections -/

/-- A check that passes a merged section if it passes both. -/
def IsKept {α : Type} (check : Table → Checked α) : Prop :=
  ∀ base override, (Table.keys override).Nodup → (check base).findings = [] →
    (check override).findings = [] → (check (merge base override)).findings = []

theorem isKept_checkLogging : IsKept checkLogging := by
  intro base override distinct baseValid overrideValid
  simp only [checkLogging, List.append_eq_nil_iff] at baseValid overrideValid ⊢
  rcases baseValid with ⟨⟨⟨⟨level, format⟩, file⟩, maxBytes⟩, backupCount⟩
  rcases overrideValid with ⟨⟨⟨⟨level', format'⟩, file'⟩, maxBytes'⟩, backupCount'⟩
  refine ⟨⟨⟨⟨?_, ?_⟩, ?_⟩, ?_⟩, ?_⟩
  · exact checkOption_merge distinct level level' fun _ => rfl
  · exact checkOption_merge distinct format format' fun _ => rfl
  · exact checkOption_merge distinct file file' fun _ => rfl
  · exact checkOption_merge distinct maxBytes maxBytes' fun _ => rfl
  · exact checkOption_merge distinct backupCount backupCount' fun _ => rfl

theorem isKept_checkCompile : IsKept checkCompile := by
  intro base override distinct baseValid overrideValid
  simp only [checkCompile, List.append_eq_nil_iff] at baseValid overrideValid ⊢
  exact ⟨checkOption_merge distinct baseValid.1 overrideValid.1 fun _ => rfl,
    checkExclude_merge distinct baseValid.2 overrideValid.2⟩

theorem isKept_checkEmit : IsKept checkEmit := by
  intro base override distinct baseValid overrideValid
  rw [checkEmit] at baseValid overrideValid ⊢
  exact checkOption_merge distinct baseValid overrideValid fun _ => rfl

section Sections

variable {α : Type} {settings base override : Table} {name model : String} {known : List String}
  {default : α} {check : Table → Checked α}

/-- Lenient validation takes a section that is missing, or a table whose options it takes. -/
theorem checkSection_eq_nil_iff :
    (checkSection .lenient settings name model known default check).findings = [] ↔
      ∀ value, Table.find? settings name = some value →
        ∃ options, value = .table options ∧ (check options).findings = [] := by
  rw [checkSection]
  cases Table.find? settings name with
  | none => simp
  | some value => cases value <;> simp [unknownKeys]

theorem checkSection_merge (kept : IsKept check) (keyed : IsKeyed override)
    (baseValid : (checkSection .lenient base name model known default check).findings = [])
    (overrideValid : (checkSection .lenient override name model known default check).findings = []) :
    (checkSection .lenient (merge base override) name model known default check).findings = [] := by
  rw [checkSection_eq_nil_iff] at baseValid overrideValid ⊢
  rcases isKeyed_iff.mp keyed with ⟨distinct, inside⟩
  intro value found
  rw [merge, find?_mergeEntries distinct] at found
  cases given : Table.find? override name with
  | none =>
      rw [given, Option.elim_none] at found
      exact baseValid value found
  | some other =>
      rcases overrideValid other given with ⟨options, rfl, optionsValid⟩
      have optionsDistinct := (isKeyed_iff.mp (inside name options given)).1
      rw [given, Option.elim_some, mergeValue_table _ optionsDistinct, Option.some.injEq] at found
      refine ⟨_, found.symm, ?_⟩
      cases old : Table.find? base name with
      | none => rwa [show tableOf none = [] from rfl, nil_merge optionsDistinct]
      | some before =>
          rcases baseValid before old with ⟨oldOptions, rfl, oldValid⟩
          exact kept oldOptions options optionsDistinct oldValid optionsValid

end Sections

/-! ## Settings -/

theorem validate_eq_nil_iff {settings : Table} :
    validate .lenient settings = [] ↔
      (checkSection .lenient settings "logging" "LoggingConfig" loggingOptions {}
          checkLogging).findings = [] ∧
        (checkSection .lenient settings "compile" "CompileConfig" compileOptions {}
          checkCompile).findings = [] ∧
        (checkSection .lenient settings "emit" "EmitConfig" emitOptions {}
          checkEmit).findings = [] := by
  simp [validate, check, unknownKeys]

/-- Valid settings merged over valid settings are valid. -/
theorem validate_merge {base override : Table} (keyed : IsKeyed override)
    (baseValid : validate .lenient base = []) (overrideValid : validate .lenient override = []) :
    validate .lenient (merge base override) = [] := by
  rw [validate_eq_nil_iff] at baseValid overrideValid ⊢
  rcases baseValid with ⟨logging, compile, emit⟩
  rcases overrideValid with ⟨logging', compile', emit'⟩
  exact ⟨checkSection_merge isKept_checkLogging keyed logging logging',
    checkSection_merge isKept_checkCompile keyed compile compile',
    checkSection_merge isKept_checkEmit keyed emit emit'⟩

theorem validate_mergeAll {layers : List Table} (keyed : ∀ layer ∈ layers, IsKeyed layer)
    (valid : ∀ layer ∈ layers, validate .lenient layer = []) :
    validate .lenient (mergeAll layers) = [] := by
  induction layers using List.reverseRecOn with
  | nil => rfl
  | append_singleton layers last induction =>
      rw [mergeAll_concat]
      apply validate_merge (keyed last (by simp)) _ (valid last (by simp))
      apply induction
      · exact fun layer member => keyed layer (List.mem_append_left _ member)
      · exact fun layer member => valid layer (List.mem_append_left _ member)

/-! ## Sources -/

/-- A source with keyed values, which has none if it does not exist. -/
structure Source.IsSound (source : Source) : Prop where
  keyed : IsKeyed source.values
  absent : source.exists = false → source.values = []
  environment : source.name = .env → source.exists = true

theorem isKeyed_defaults : IsKeyed defaults := by
  refine isKeyed_of_entries (by decide) ?_
  intro name inner member
  simp only [defaults, List.mem_cons, Prod.mk.injEq, Value.table.injEq, List.not_mem_nil,
    or_false] at member
  rcases member with ⟨_, rfl⟩ | ⟨_, rfl⟩ | ⟨_, rfl⟩
  · exact isKeyed_of_entries (by decide) (by simp)
  · exact isKeyed_of_entries (by decide) (by simp)
  · exact isKeyed_of_entries (by decide) (by simp)

namespace Config

variable {surroundings : Surroundings}

theorem isSound_of_discover {request : Request} (keyed : IsKeyed request.overrides)
    {source : Source} (member : source ∈ discover surroundings request) : source.IsSound := by
  have ofFile (name : SourceName) (path : Path) (noVariables : name ≠ .env) :
      (fileSource surroundings.files name path).IsSound :=
    ⟨isKeyed_nil, fun _ => rfl, fun same => absurd same noVariables⟩
  simp only [discover, List.mem_append, List.mem_cons, List.not_mem_nil, or_false,
    Option.mem_toList, Option.map_eq_some_iff] at member
  rcases member with ((line | environment) | ⟨directory, _, rfl⟩) | rfl | rfl
  · split at line
    · cases List.mem_singleton.mp line
      exact ⟨keyed, fun absent => by simpa using absent, fun absurdity => nomatch absurdity⟩
    · cases line
  · split at environment
    · cases List.mem_singleton.mp environment
      exact ⟨isKeyed_nil, fun _ => rfl, fun _ => rfl⟩
    · cases environment
  · exact ofFile _ _ (by decide)
  · exact ofFile _ _ (by decide)
  · exact ⟨isKeyed_defaults, fun absurdity => (nomatch absurdity), fun _ => rfl⟩

theorem isKeyed_loadTable {tree : FileTree} {path : Path} {table : Table}
    (loaded : loadTable tree path = .ok table) : IsKeyed table := by
  rw [loadTable] at loaded
  split at loaded
  · cases loaded
  split at loaded
  · cases loaded
  split at loaded
  · rename_i read
    cases loaded
    exact Toml.isKeyed_read read
  · simp only at loaded
    split at loaded <;> cases loaded

/-- Filling a source leaves it sound, for documents and the environment make keyed tables. -/
theorem isSound_of_fill {source filled : Source} (sound : source.IsSound)
    (fills : fill surroundings source = .ok filled) : filled.IsSound := by
  rw [fill] at fills
  split at fills
  · cases fills
    exact sound
  · cases fills
    exact sound
  · rename_i named
    cases fills
    have there := sound.environment named
    exact ⟨isKeyed_fromEnvironment _ _, fun absent => absurd (there.symm.trans absent) (by decide),
      fun _ => there⟩
  all_goals
    split at fills
    · rename_i there
      rcases map_eq_ok.mp fills with ⟨values, loaded, rfl⟩
      exact ⟨isKeyed_loadTable (mapError_eq_ok.mp loaded),
        fun absent => absurd (there.symm.trans absent) (by decide), fun _ => there⟩
    · cases fills
      exact ⟨isKeyed_nil, fun _ => rfl, sound.environment⟩

/-- A sound source without issues has valid values. -/
theorem validate_of_validateSource {source : Source} (sound : source.IsSound)
    (valid : validateSource source = []) : validate .lenient source.values = [] := by
  cases there : source.exists with
  | true =>
      rw [validateSource, if_pos there, List.map_eq_nil_iff] at valid
      rw [validate, valid, List.map_nil]
  | false =>
      rw [sound.absent there]
      rfl

theorem fill_ne_invalid {source : Source} {error : ValidationError} :
    fill surroundings source ≠ .error (.invalid error) := by
  intro failed
  rw [fill] at failed
  split at failed
  · cases failed
  · cases failed
  · cases failed
  all_goals
    split at failed
    · rcases mapError_eq_error.mp (map_eq_error.mp failed) with ⟨_, _, absurdity⟩
      cases absurdity
    · cases failed

theorem fillAll_ne_invalid {merged : Table} {sources : List Source} {error : ValidationError} :
    fillAll surroundings merged sources ≠ .error (.invalid error) := by
  induction sources generalizing merged with
  | nil => exact fun failed => nomatch failed
  | cons source higher induction =>
      intro failed
      rcases bind_eq_error.mp failed with first | ⟨given, _, failed⟩
      · exact fill_ne_invalid first
      · rcases bind_eq_error.mp failed with others | ⟨_, _, absurdity⟩
        · exact induction others
        · cases absurdity

theorem exists_of_fillAll {merged data : Table} {sources filled : List Source}
    (ended : fillAll surroundings merged sources = .ok (filled, data)) :
    ∀ given ∈ filled, ∃ source ∈ sources, fill surroundings source = .ok given := by
  have each := (fillAll_eq_ok ended).1
  clear ended
  induction each with
  | nil => exact fun given absurdity => nomatch absurdity
  | cons first _ induction =>
      rw [List.forall_mem_cons]
      refine ⟨⟨_, List.mem_cons_self, first⟩, ?_⟩
      intro given member
      rcases induction given member with ⟨source, inSources, fills⟩
      exact ⟨source, List.mem_cons_of_mem _ inSources, fills⟩

/-- Settings that are refused are not valid when all sources are merged. -/
theorem load_eq_invalid {request : Request} {error : ValidationError}
    (refused : load surroundings request = .error (.invalid error)) :
    ∃ filled : List Source, (∀ given ∈ filled, ∃ source ∈ discover surroundings request,
        fill surroundings source = .ok given) ∧
      validate .lenient (mergeAll (filled.map Source.values)) ≠ [] := by
  rcases bind_eq_error.mp refused with failed | ⟨⟨filled, data⟩, ended, refused⟩
  · exact absurd failed fillAll_ne_invalid
  have each := exists_of_fillAll ended
  rcases fillAll_eq_ok ended with ⟨_, rfl⟩
  refine ⟨filled, fun given member => ?_, ?_⟩
  · rcases each given member with ⟨source, listed, fills⟩
    exact ⟨source, List.mem_reverse.mp listed, fills⟩
  intro valid
  rcases bind_eq_error.mp refused with invalid | ⟨_, _, shape⟩
  · rw [requireValid, ← mergeAll, valid] at invalid
    cases invalid
  · rw [ofMerged] at shape
    split at shape <;> cases shape

end Config

/-- Settings merged from valid ones, in any order, are valid. So if the settings of all sources are
refused, there is a source whose own settings have an issue. -/
theorem mergeAll_isValid (layers : List Table) (keyed : ∀ layer ∈ layers, IsKeyed layer)
    (valid : ∀ layer ∈ layers, validate .lenient layer = []) :
    (∀ order, order.Perm layers → validate .lenient (mergeAll order) = []) ∧
    ∀ surroundings request error, IsKeyed request.overrides →
      Config.load surroundings request = .error (.invalid error) →
        ∃ source ∈ discover surroundings request, ∃ filled,
          Config.fill surroundings source = .ok filled ∧ validateSource filled ≠ [] := by
  constructor
  · intro order same
    exact validate_mergeAll (fun layer member => keyed layer (same.mem_iff.mp member))
      fun layer member => valid layer (same.mem_iff.mp member)
  · intro surroundings request error overridesKeyed refused
    rcases Config.load_eq_invalid refused with ⟨filled, each, invalid⟩
    by_contra faultless
    have sound : ∀ given ∈ filled, given.IsSound ∧ validateSource given = [] := by
      intro given member
      rcases each given member with ⟨source, listed, fills⟩
      refine ⟨Config.isSound_of_fill (Config.isSound_of_discover overridesKeyed listed) fills, ?_⟩
      by_contra faulty
      exact faultless ⟨source, listed, given, fills, faulty⟩
    apply invalid
    apply validate_mergeAll
    · intro layer member
      rcases List.mem_map.mp member with ⟨given, inFilled, rfl⟩
      exact (sound given inFilled).1.keyed
    · intro layer member
      rcases List.mem_map.mp member with ⟨given, inFilled, rfl⟩
      rcases sound given inFilled with ⟨isSound, noIssue⟩
      exact Config.validate_of_validateSource isSound noIssue

/-- Sections with options in common, an unknown one among them that is a table in one layer only. -/
def sharedLayers : List Table := [
  [("logging", .table [("level", .text "debug"), ("mail", .text "x")]),
    ("emit", .table [("check_syntax", .text "off")])],
  [("logging", .table [("max_bytes", .float (.finite false 1 3)), ("mail", .table [])])]]

/-- A user's settings that are valid beneath a variable that is not. -/
def faultySurroundings : Surroundings :=
  ⟨⟨.directory [("h", .directory [(".config", .directory [("typedhtml", .directory [("config.toml",
      .file (Utf8.encode "[compile]\nexclude = []\n"))])])])], []⟩,
    [("HOME", "/h"), ("TYPEDHTML_COMPILE__MINIFY", "maybe")]⟩

theorem mergeAll_isValid_shared :
    (∀ layer ∈ sharedLayers, IsKeyed layer) ∧
      (∀ layer ∈ sharedLayers, validate .lenient layer = []) ∧
      validate .lenient (mergeAll sharedLayers.reverse) = [] ∧
      ∃ error, Config.load faultySurroundings {} = .error (.invalid error) ∧
        ∃ source ∈ discover faultySurroundings {}, ∃ filled,
          Config.fill faultySurroundings source = .ok filled ∧ validateSource filled ≠ [] := by
  have keyed : ∀ layer ∈ sharedLayers, IsKeyed layer := by
    intro layer member
    simp only [sharedLayers, List.mem_cons, List.not_mem_nil, or_false] at member
    rcases member with rfl | rfl
    · refine isKeyed_of_entries (by decide) ?_
      intro name inner member
      simp only [List.mem_cons, Prod.mk.injEq, Value.table.injEq, List.not_mem_nil,
        or_false] at member
      rcases member with ⟨_, rfl⟩ | ⟨_, rfl⟩
      · exact isKeyed_of_entries (by decide) (by simp)
      · exact isKeyed_of_entries (by decide) (by simp)
    · refine isKeyed_of_entries (by decide) ?_
      intro name inner member
      simp only [List.mem_singleton, Prod.mk.injEq, Value.table.injEq] at member
      rcases member with ⟨_, rfl⟩
      exact isKeyed_of_entries (by decide) (by simp [isKeyed_nil])
  have valid : ∀ layer ∈ sharedLayers, validate .lenient layer = [] := by
    intro layer member
    simp only [sharedLayers, List.mem_cons, List.not_mem_nil, or_false] at member
    rcases member with rfl | rfl <;> rfl
  have evaluated : (match Config.load faultySurroundings {} with
      | .error (.invalid _) => true
      | _ => false) = true := by decide +kernel
  have refused : ∃ error, Config.load faultySurroundings {} = .error (.invalid error) := by
    generalize Config.load faultySurroundings {} = loaded at evaluated ⊢
    match loaded, evaluated with
    | .error (.invalid error), _ => exact ⟨error, rfl⟩
  rcases refused with ⟨error, refused⟩
  rcases mergeAll_isValid sharedLayers keyed valid with ⟨merged, sources⟩
  exact ⟨keyed, valid, merged _ (List.reverse_perm _), error, refused,
    sources _ _ _ isKeyed_nil refused⟩

end Stencil.Settings
