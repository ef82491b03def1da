import Stencil.CommandLine.Run
import Stencil.Proofs.Settings.Agreement
import Stencil.Proofs.Settings.Layers
import Stencil.Proofs.Settings.Variables

/-!
Who has the last word over a setting when a command runs. Where the settings files are looked for,
the command line outranks the environment, and the environment outranks every file. A file that is
named outranks both: it is read alone.
-/

namespace Stencil.Settings

open CommandLine (GlobalOptions)

/-! ## The sources of a configuration -/

namespace Config

variable {surroundings : Surroundings} {config : Config}

/-- The configuration of a file is that of its settings over the defaults. -/
theorem ofFile_eq_ok {tree : FileTree} {path : Path} (loaded : ofFile tree path true = .ok config) :
    ∃ settings, loadTable tree path = .ok settings ∧ config.data = merge defaults settings ∧
      config.sources = [⟨.project, some path, true, settings⟩] ∧
      TypedSettings.read config.data = .ok config.typed := by
  rcases bind_eq_ok.mp loaded with ⟨settings, found, loaded⟩
  rcases bind_eq_ok.mp loaded with ⟨_, _, made⟩
  exact ⟨settings, mapError_eq_ok.mp found, ofMerged_eq_ok made⟩

/-- The environment is merged over all files, and the command line over the environment. -/
theorem data_of_load {projectRoot : Option Path} {overrides : Option Table}
    (loaded : load surroundings
      { projectRoot, includeCli := overrides.isSome, overrides := overrides.getD [] } =
        .ok config) :
    ∃ files, config.data =
      merge (merge files (fromEnvironment surroundings.environment variablePrefix))
        (overrides.getD []) := by
  rcases load_eq_ok loaded with ⟨each, data, _⟩
  rw [data]
  cases overrides with
  | none =>
      rcases List.forall₂_cons_left_iff.mp each with ⟨_, files, given, _, sources⟩
      cases given
      refine ⟨mergeAll (files.reverse.map Source.values), ?_⟩
      rw [sources, List.reverse_cons, List.map_append, List.map_singleton, mergeAll_concat,
        Option.getD_none, merge_nil]
  | some overrides =>
      rcases List.forall₂_cons_left_iff.mp each with ⟨_, _, first, others, sources⟩
      rcases List.forall₂_cons_left_iff.mp others with ⟨_, files, second, _, rfl⟩
      cases first
      cases second
      refine ⟨mergeAll (files.reverse.map Source.values), ?_⟩
      rw [sources, List.reverse_cons, List.reverse_cons, List.map_append, List.map_append,
        List.map_singleton, List.map_singleton, mergeAll_concat, mergeAll_concat,
        Option.getD_some]

end Config

/-! ## Ranks -/

def levelPath : List String := ["logging", "level"]

/-- The command line decides over the level, and a variable of the environment over what it sets,
unless that is the level and the command line has set it. -/
structure IsRanked (environment : Environment) (options : GlobalOptions) (config : Config) :
    Prop where
  verbose : options.isVerbose = true → config.typed.logging.level = .debug
  given : ∀ path text, IsSetTo environment variablePrefix path text →
    (options.isVerbose = true → ¬ path <+: levelPath ∧ ¬ levelPath <+: path) →
      valueAt? (.table config.data) path = some (parseText text)

theorem level_of_read {settings : Table} {typed : TypedSettings} {level : LogLevel}
    (read : TypedSettings.read settings = .ok typed)
    (held : valueAt? (.table settings) levelPath = some (.text level.name)) :
    typed.logging.level = level := by
  rcases bind_eq_ok.mp read with ⟨logging, found, read⟩
  rcases bind_eq_ok.mp read with ⟨_, _, read⟩
  rcases bind_eq_ok.mp read with ⟨compile, _, read⟩
  rcases bind_eq_ok.mp read with ⟨emit, _, read⟩
  cases read
  rw [levelPath, valueAt?_of_sectionOf found] at held
  have named : LogLevel.ofName? level.name = some level := by
    cases level <;> rfl
  simp only [readLogging, held, Option.bind_some, textOf?, named, Option.getD_some]

/-- What the command line sets if it sets anything. -/
def debugLevel : Table := setAt (.text LogLevel.debug.name) [] levelPath

theorem overrides_eq (options : GlobalOptions) :
    options.overrides = if options.isVerbose then some debugLevel else none :=
  rfl

theorem isKeyed_debugLevel : IsKeyed debugLevel := isKeyed_nil.setAt rfl levelPath

theorem not_touches_debugLevel {path : List String} (notAbove : ¬ path <+: levelPath)
    (notBelow : ¬ levelPath <+: path) : ¬ Touches debugLevel path := by
  apply not_touches_setAt notBelow notAbove
  apply not_touches_empty
  intro empty
  exact notAbove (empty ▸ List.nil_prefix)

/-! ## Loading for a command -/

section Loading

variable {surroundings : Surroundings} {options : GlobalOptions} {config : Config}

/-- What is told of an attempt to load. -/
def told (strict : Bool) : Except ConfigError Config → Loading
  | .ok config => ⟨"", .ok (config, none)⟩
  | .error error => handle strict error

/-- Only an attempt that succeeds leaves a configuration without a message. -/
theorem told_eq_ok_iff {strict : Bool} {attempt : Except ConfigError Config} :
    (told strict attempt).result = .ok (config, none) ↔ attempt = .ok config := by
  cases attempt with
  | ok found => simp [told]
  | error error =>
      simp only [told, handle, failOrWarn, reduceCtorEq, iff_false]
      intro ended
      split at ended
      all_goals
        try split at ended
        all_goals cases ended

theorem loadForCommand_none (projectRoot : Option Path) (overrides : Option Table) :
    loadForCommand surroundings none projectRoot overrides =
      told (isStrict surroundings.environment) (Config.load surroundings
        { projectRoot, includeCli := overrides.isSome, overrides := overrides.getD [] }) :=
  rfl

/-- Of a file that is named nothing but the file is read, whatever else is given. -/
theorem loadForCommand_some_iff {path : Path} {projectRoot : Option Path}
    {overrides : Option Table} :
    (loadForCommand surroundings (some path) projectRoot overrides).result =
        .ok (config, none) ↔
      surroundings.files.leadsTo (fun _ => true) path = .ok true ∧
        Config.ofFile surroundings.files path true = .ok config := by
  cases leads : surroundings.files.leadsTo (fun _ => true) path with
  | error error =>
      have ends : loadForCommand surroundings (some path) projectRoot overrides =
          told (isStrict surroundings.environment) (.error (.load (.file error))) := by
        rw [loadForCommand, leads]
        rfl
      rw [ends, told_eq_ok_iff]
      simp
  | ok there =>
      cases there with
      | false => simp [loadForCommand, leads]
      | true =>
          have ends : loadForCommand surroundings (some path) projectRoot overrides =
              told (isStrict surroundings.environment)
                (Config.ofFile surroundings.files path true) := by
            rw [loadForCommand, leads]
            rfl
          rw [ends, told_eq_ok_iff]
          simp

/-- With the settings files looked for, the command line and the environment have the last word. -/
theorem isRanked_of_load {projectRoot : Option Path}
    (loaded : Config.load surroundings
      { projectRoot, includeCli := options.overrides.isSome,
        overrides := options.overrides.getD [] } = .ok config) :
    IsRanked surroundings.environment options config := by
  rcases Config.data_of_load loaded with ⟨files, data⟩
  have read := (Config.load_eq_ok loaded).2.2
  have environmentKeyed := isKeyed_fromEnvironment surroundings.environment variablePrefix
  rw [overrides_eq] at data
  constructor
  · intro verbose
    apply level_of_read read
    rw [data, if_pos verbose, Option.getD_some]
    have held : valueAt? (.table debugLevel) levelPath = some (.text LogLevel.debug.name) := rfl
    exact (valueAt?_merge_of_touches isKeyed_debugLevel (touches_of_valueAt? held) rfl _).mpr held
  · intro path text given apart
    have held := valueAt?_fromEnvironment given
    have beneath : valueAt? (.table (merge files
        (fromEnvironment surroundings.environment variablePrefix))) path =
          some (parseText text) :=
      (valueAt?_merge_of_touches environmentKeyed (touches_of_valueAt? held)
        (isTable_parseText text) files).mpr held
    rw [data]
    by_cases verbose : options.isVerbose = true
    · rcases apart verbose with ⟨notAbove, notBelow⟩
      rw [if_pos verbose, Option.getD_some, valueAt?_merge_of_not_touches isKeyed_debugLevel
        (not_touches_debugLevel notAbove notBelow), beneath]
    · rw [if_neg verbose, Option.getD_none, merge_nil, beneath]

end Loading

/-- The command line and the environment outrank the settings files that are found. A file that is
named is read alone: over the defaults, and with the same result for any environment and any other
options. -/
theorem loadForCommand_ranks (surroundings : Surroundings) (options : GlobalOptions)
    (config : Config)
    (loaded : (loadForCommand surroundings options.config options.projectRoot
      options.overrides).result = .ok (config, none)) :
    TypedSettings.read config.data = .ok config.typed ∧
    (options.config = none → IsRanked surroundings.environment options config) ∧
    ∀ path, options.config = some path →
      (∃ settings, loadTable surroundings.files path = .ok settings ∧
        config.data = merge defaults settings) ∧
      ∀ environment (others : GlobalOptions), others.config = some path →
        (loadForCommand ⟨surroundings.files, environment⟩ others.config others.projectRoot
          others.overrides).result = .ok (config, none) := by
  cases named : options.config with
  | none =>
      rw [named, loadForCommand_none, told_eq_ok_iff] at loaded
      refine ⟨(Config.load_eq_ok loaded).2.2, ?_, ?_⟩
      · intro _
        exact isRanked_of_load loaded
      · intro path absurdity
        cases absurdity
  | some path =>
      rw [named, loadForCommand_some_iff] at loaded
      rcases loaded with ⟨there, read⟩
      rcases Config.ofFile_eq_ok read with ⟨settings, found, data, _, typed⟩
      refine ⟨typed, ?_, ?_⟩
      · intro absurdity
        cases absurdity
      · intro same equal
        cases equal
        refine ⟨⟨settings, found, data⟩, ?_⟩
        intro environment others again
        rw [again]
        exact loadForCommand_some_iff.mpr ⟨there, read⟩

/-- A settings file, found or named, and variables that set something else. -/
def contestedSurroundings : Surroundings :=
  ⟨⟨.directory [("typedhtml.toml", .file (Utf8.encode "[logging]\nfile = \"a.log\"\n"))], []⟩,
    [("TYPEDHTML_LOGGING__LEVEL", "error"), ("TYPEDHTML_LOGGING__FILE", "b.log")]⟩

theorem isSetTo_contested :
    IsSetTo contestedSurroundings.environment variablePrefix ["logging", "file"] "b.log" := by
  refine ⟨[("TYPEDHTML_LOGGING__LEVEL", "error")], "TYPEDHTML_LOGGING__FILE", [], rfl, ?_, ?_⟩
  · decide +kernel
  · intro other member
    cases member

theorem exists_config {result : Except LoadFailure (Config × Option String)}
    {logging : LoggingSettings}
    (ended : (result.toOption.map fun found => (found.2, found.1.typed.logging)) =
      some (none, logging)) :
    ∃ config, result = .ok (config, none) ∧ config.typed.logging = logging := by
  rcases Option.map_eq_some_iff.mp ended with ⟨⟨config, message⟩, found, same⟩
  cases same
  cases result with
  | error error => cases found
  | ok given =>
      cases found
      exact ⟨config, rfl, rfl⟩

/-- Verbose, with the settings file looked for. -/
def finding : GlobalOptions := { isVerbose := true }

/-- Verbose, with the settings file named. -/
def naming : GlobalOptions :=
  { isVerbose := true, config := some (Path.ofString "typedhtml.toml") }

theorem exists_foundConfig :
    ∃ config, (loadForCommand contestedSurroundings finding.config finding.projectRoot
        finding.overrides).result = .ok (config, none) ∧
      config.typed.logging = { level := .debug, file := "b.log" } := by
  apply exists_config
  decide +kernel

theorem exists_namedConfig :
    ∃ config, (loadForCommand contestedSurroundings naming.config naming.projectRoot
        naming.overrides).result = .ok (config, none) ∧
      config.typed.logging = { level := .info, file := "a.log" } := by
  apply exists_config
  decide +kernel

theorem loadForCommand_ranks_contested :
    (∃ config, (loadForCommand contestedSurroundings finding.config finding.projectRoot
        finding.overrides).result = .ok (config, none) ∧
      config.typed.logging.level = .debug ∧
      valueAt? (.table config.data) ["logging", "file"] = some (.text "b.log")) ∧
    ∃ config settings, (loadForCommand contestedSurroundings naming.config naming.projectRoot
        naming.overrides).result = .ok (config, none) ∧
      loadTable contestedSurroundings.files (Path.ofString "typedhtml.toml") = .ok settings ∧
      config.data = merge defaults settings := by
  constructor
  · rcases exists_foundConfig with ⟨config, loaded, _⟩
    rcases loadForCommand_ranks contestedSurroundings finding config loaded with ⟨_, found, _⟩
    have ranked := found rfl
    have noArray : array? "b.log" = none := if_neg (by decide +kernel)
    refine ⟨config, loaded, ranked.verbose rfl, ?_⟩
    rw [ranked.given _ _ isSetTo_contested fun _ => by decide,
      parseText_of_plain (by decide +kernel) (by decide +kernel) noArray]
  · rcases exists_namedConfig with ⟨config, loaded, _⟩
    rcases loadForCommand_ranks contestedSurroundings naming config loaded with ⟨_, _, named⟩
    rcases named _ rfl with ⟨⟨settings, found, data⟩, _⟩
    exact ⟨config, settings, loaded, found, data⟩

/-- The level of a file that is named holds in spite of the command line, and its log file in spite
of the environment. -/
theorem loadForCommand_namedFile :
    ∃ config, (loadForCommand contestedSurroundings naming.config naming.projectRoot
        naming.overrides).result = .ok (config, none) ∧
      config.typed.logging = { level := .info, file := "a.log" } ∧
      ¬ IsRanked contestedSurroundings.environment naming config := by
  rcases exists_namedConfig with ⟨config, loaded, logging⟩
  refine ⟨config, loaded, logging, ?_⟩
  intro ranked
  have level := ranked.verbose rfl
  rw [logging] at level
  cases level

end Stencil.Settings
