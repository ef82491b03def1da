import Stencil.Proofs.Settings.Layers
import Stencil.Proofs.Settings.Written

/-!
Loading of settings when a single variable of the environment sets something. All options but that
of the variable have their defaults. The option has the value that the variable was written for,
or the settings are refused.
-/

namespace Stencil.Settings

/-! ## The only source -/

/-- One variable sets something, and nothing else does: no option of the command line, and neither
the file of a project nor that of the user is there. -/
structure IsOnlySource (surroundings : Surroundings) (request : Request) (name text : String) :
    Prop where
  single : surroundings.environment.filter
    (fun entry => (keyName? variablePrefix entry.1).isSome) = [(name, text)]
  counts : request.includeEnvironment = true
  noOverrides : request.includeCli = true → request.overrides = []
  noProject : ∀ root, request.projectRoot.or (currentProject? surroundings.files) = some root →
    surroundings.files.isFile (root / projectFileName) = false
  noUser : surroundings.files.isFile (userFilePath surroundings.environment) = false

theorem fromEnvironment_filter (environment : Environment) (leading : String) :
    fromEnvironment (environment.filter fun entry => (keyName? leading entry.1).isSome) leading =
      fromEnvironment environment leading := by
  induction environment using List.reverseRecOn with
  | nil => rfl
  | append_singleton environment last induction =>
      rcases last with ⟨name, text⟩
      rw [List.filter_append, fromEnvironment_concat, variablePath?]
      cases found : keyName? leading name with
      | none =>
          have left : [(name, text)].filter (fun entry => (keyName? leading entry.1).isSome) =
              [] := by
            rw [List.filter_cons_of_neg (by simp [found]), List.filter_nil]
          rw [left, List.append_nil, induction]
          rfl
      | some key =>
          have kept : [(name, text)].filter (fun entry => (keyName? leading entry.1).isSome) =
              [(name, text)] := by
            rw [List.filter_cons_of_pos (by simp [found]), List.filter_nil]
          rw [kept, fromEnvironment_concat, variablePath?, found, induction]

/-- The sources beneath the environment but for the defaults, the lowest in rank first. -/
def fileSources (surroundings : Surroundings) (request : Request) : List Source :=
  fileSource surroundings.files .user (userFilePath surroundings.environment) ::
    ((request.projectRoot.or (currentProject? surroundings.files)).map fun directory =>
      fileSource surroundings.files .project (directory / projectFileName)).toList

/-- The source above the environment, if it counts. -/
def lineSources (request : Request) : List Source :=
  if request.includeCli then [⟨.cli, none, !request.overrides.isEmpty, request.overrides⟩] else []

theorem discover_reverse (surroundings : Surroundings) {request : Request}
    (counts : request.includeEnvironment = true) :
    (discover surroundings request).reverse =
      ⟨.default, none, true, defaults⟩ ::
        (fileSources surroundings request ++ ⟨.env, none, true, []⟩ :: lineSources request) := by
  rw [discover, if_pos counts, fileSources, lineSources]
  cases request.projectRoot.or (currentProject? surroundings.files) <;>
    cases request.includeCli <;> rfl

namespace Config

variable {surroundings : Surroundings}

theorem fillAll_cons {merged data : Table} {source given : Source} {higher filled : List Source}
    (first : fill surroundings source = .ok given)
    (others : fillAll surroundings (merge merged given.values) higher = .ok (filled, data)) :
    fillAll surroundings merged (source :: higher) = .ok (given :: filled, data) :=
  bind_eq_ok.mpr ⟨given, first, bind_eq_ok.mpr ⟨(filled, data), others, rfl⟩⟩

/-- The source is filled with nothing. -/
def IsIdle (surroundings : Surroundings) (source : Source) : Prop :=
  ∃ given, fill surroundings source = .ok given ∧ given.values = []

/-- Idle sources leave what was merged. -/
theorem fillAll_append {merged data : Table} {idle higher filled : List Source}
    (areIdle : ∀ source ∈ idle, IsIdle surroundings source)
    (others : fillAll surroundings merged higher = .ok (filled, data)) :
    ∃ all, fillAll surroundings merged (idle ++ higher) = .ok (all, data) := by
  induction idle with
  | nil => exact ⟨filled, others⟩
  | cons source idle induction =>
      rcases List.forall_mem_cons.mp areIdle with ⟨⟨given, first, nothing⟩, later⟩
      rcases induction later with ⟨all, ended⟩
      refine ⟨given :: all, fillAll_cons first ?_⟩
      rw [nothing, merge_nil]
      exact ended

theorem isIdle_missing {name : SourceName} (ofFile : name = .project ∨ name = .user) {path : Path}
    (missing : surroundings.files.isFile path = false) :
    IsIdle surroundings (fileSource surroundings.files name path) := by
  rw [fileSource, missing]
  rcases ofFile with rfl | rfl
  · exact ⟨_, rfl, rfl⟩
  · exact ⟨_, rfl, rfl⟩

section OnlySource

variable {request : Request} {name text : String}

theorem isIdle_fileSources (only : IsOnlySource surroundings request name text) :
    ∀ source ∈ fileSources surroundings request, IsIdle surroundings source := by
  intro source member
  rcases List.mem_cons.mp member with rfl | ofProject
  · exact isIdle_missing (.inr rfl) only.noUser
  · rcases Option.map_eq_some_iff.mp (Option.mem_toList.mp ofProject) with ⟨root, found, rfl⟩
    exact isIdle_missing (.inl rfl) (only.noProject root found)

theorem isIdle_lineSources (only : IsOnlySource surroundings request name text) :
    ∀ source ∈ lineSources request, IsIdle surroundings source := by
  intro source member
  rw [lineSources] at member
  split at member
  · rename_i counts
    cases List.mem_singleton.mp member
    exact ⟨_, rfl, only.noOverrides counts⟩
  · cases member

/-- The settings are those of the variable over the defaults. -/
theorem load_of_onlySource {path : List String}
    (only : IsOnlySource surroundings request name text)
    (sets : variablePath? variablePrefix name = some path) :
    ∃ sources, load surroundings request = (do
      requireValid (setAt (parseText text) defaults path) none
      ofMerged (setAt (parseText text) defaults path) sources) := by
  have given : fromEnvironment surroundings.environment variablePrefix =
      setAt (parseText text) [] path := by
    rw [← fromEnvironment_filter, only.single, ← List.nil_append [(name, text)],
      fromEnvironment_concat, sets]
    rfl
  have merged : merge defaults (fromEnvironment surroundings.environment variablePrefix) =
      setAt (parseText text) defaults path := by
    rw [given]
    exact merge_setAt_nil (isTable_parseText text) (ne_nil_of_variablePath? sets) defaults
  have ended : fillAll surroundings (setAt (parseText text) defaults path) [] =
      .ok ([], setAt (parseText text) defaults path) := rfl
  rcases fillAll_append (isIdle_lineSources only) ended with ⟨above, top⟩
  rw [List.append_nil, ← merged] at top
  have middle : fillAll surroundings defaults (⟨.env, none, true, []⟩ :: lineSources request) = _ :=
    fillAll_cons rfl top
  rcases fillAll_append (isIdle_fileSources only) middle with ⟨beneath, below⟩
  have whole : ∃ sources, fillAll surroundings [] (discover surroundings request).reverse =
      .ok (sources, setAt (parseText text) defaults path) := by
    rw [discover_reverse surroundings only.counts, ← merged]
    exact ⟨_, fillAll_cons rfl below⟩
  rcases whole with ⟨sources, whole⟩
  refine ⟨sources.reverse, ?_⟩
  rw [load, whole]
  rfl

end OnlySource

end Config

theorem requireValid_of_accepted {data : Table}
    (accepted : (check .lenient data).findings = []) (source : Option String) :
    Config.requireValid data source = .ok () := by
  rw [Config.requireValid, validate, accepted]
  rfl

theorem requireValid_of_found {data : Table} {finding : Finding}
    (found : (check .lenient data).findings = [finding]) (source : Option String) :
    ∃ error, Config.requireValid data source = .error (.invalid error) ∧
      error.key = joinTexts "." finding.place := by
  rw [Config.requireValid, validate, found]
  exact ⟨_, rfl, rfl⟩

/-- An option can be set from the environment to any value whose text does not have the form of
another value, with every other option left at its default. A text that does is refused with the
name of the option. -/
theorem load_setting (setting : Setting) (text : String) (surroundings : Surroundings)
    (request : Request) (written : setting.IsWritten text)
    (only : IsOnlySource surroundings request setting.variableName text)
    (noDigit : ¬ setting.IsTruthDigit) :
    (¬ setting.IsMistaken → ∃ config, Config.load surroundings request = .ok config ∧
      config.typed = setting.typed) ∧
    (setting.IsMistaken → ∃ error, Config.load surroundings request = .error (.invalid error) ∧
      error.key = joinTexts "." setting.path) := by
  rcases Config.load_of_onlySource only setting.variablePath?_eq with ⟨sources, loads⟩
  constructor
  · intro plain
    rw [Setting.parseText_of_isWritten written noDigit plain,
      requireValid_of_accepted setting.findings_value] at loads
    have made : Config.ofMerged (setAt setting.value defaults setting.path) sources =
        .ok ⟨setAt setting.value defaults setting.path, sources, setting.typed⟩ := by
      rw [Config.ofMerged, setting.read_value]
    exact ⟨_, loads.trans made, rfl⟩
  · intro mistaken
    rcases Setting.findings_of_isMistaken written mistaken with ⟨problem, found⟩
    rcases requireValid_of_found found none with ⟨error, refused, key⟩
    rw [refused] at loads
    exact ⟨error, loads, key⟩

/-- A process without any file, in whose environment one variable sets something. -/
def loneVariable (name text : String) : Surroundings :=
  ⟨⟨.directory [], []⟩, [("HOME", "/home/me"), (name, text)]⟩

theorem isOnlySource_lone {name text : String}
    (sets : (keyName? variablePrefix name).isSome = true)
    (noUser : (loneVariable name text).files.isFile
      (userFilePath (loneVariable name text).environment) = false) :
    IsOnlySource (loneVariable name text) {} name text := by
  constructor
  · have home : (keyName? variablePrefix "HOME").isSome = false := by decide +kernel
    simp [loneVariable, home, sets]
  · rfl
  · intro absurdity
    cases absurdity
  · have noProject : currentProject? ⟨.directory [], []⟩ = none := by decide +kernel
    intro root found
    have absurdity : currentProject? ⟨.directory [], []⟩ = some root := found
    rw [noProject] at absurdity
    cases absurdity
  · exact noUser

/-- Two patterns with a blank between them. -/
def patternsText : String := "[\"drafts/\", \"*.bak\"]"

theorem load_setting_patterns :
    (Setting.exclude ["drafts/", "*.bak"]).IsWritten patternsText ∧
      IsOnlySource (loneVariable "TYPEDHTML_COMPILE__EXCLUDE" patternsText) {}
        "TYPEDHTML_COMPILE__EXCLUDE" patternsText ∧
      ∃ config, Config.load (loneVariable "TYPEDHTML_COMPILE__EXCLUDE" patternsText) {} =
          .ok config ∧
        config.typed.compile.exclude = ["drafts/", "*.bak"] := by
  have written : (Setting.exclude ["drafts/", "*.bak"]).IsWritten patternsText := by
    have first : Json.SpellsMember "drafts/" "\"drafts/\"".toList :=
      ⟨[], "drafts/".toList, [], by simp, Json.spellsText_plain rfl, by simp, rfl⟩
    have second : Json.SpellsMember "*.bak" " \"*.bak\"".toList :=
      ⟨[' '], "*.bak".toList, [], List.forall_mem_singleton.mpr rfl, Json.spellsText_plain rfl,
        by simp, rfl⟩
    exact .filled (.cons first (.last second))
  have only : IsOnlySource (loneVariable "TYPEDHTML_COMPILE__EXCLUDE" patternsText) {}
      "TYPEDHTML_COMPILE__EXCLUDE" patternsText :=
    isOnlySource_lone (by decide +kernel) (by decide +kernel)
  rcases (load_setting (.exclude ["drafts/", "*.bak"]) _ _ {} written only (fun digit => digit)).1
    (fun mistaken => mistaken) with ⟨config, loaded, typed⟩
  refine ⟨written, only, config, loaded, ?_⟩
  rw [typed]
  rfl

/-- A log file cannot be named by a number. -/
theorem load_numericFile :
    (Setting.file "42").IsWritten "42" ∧
      IsOnlySource (loneVariable "TYPEDHTML_LOGGING__FILE" "42") {} "TYPEDHTML_LOGGING__FILE" "42" ∧
      ∀ config, Config.load (loneVariable "TYPEDHTML_LOGGING__FILE" "42") {} ≠ .ok config := by
  refine ⟨rfl, isOnlySource_lone (by decide +kernel) (by decide +kernel), ?_⟩
  have refused : (Config.load (loneVariable "TYPEDHTML_LOGGING__FILE" "42") {}).toOption.isNone =
      true := by decide +kernel
  intro config loaded
  rw [loaded] at refused
  cases refused

end Stencil.Settings
