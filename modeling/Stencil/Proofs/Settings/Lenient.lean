import Stencil.Proofs.Settings.Agreement
import Stencil.Proofs.Settings.Precedence
import Stencil.Proofs.Settings.SingleVariable

/-!
Loading of settings that is to pass over every error. It does, but for two kinds of settings files:
one that is not in UTF-8, and one with an integer that has too many digits. Neither error counts as
one about settings or about files, so it ends the program unless another error comes first.
-/

namespace Stencil.Settings

/-! ## Files that end the loading -/

/-- A settings file that is no text, or that holds an integer too long to read. -/
def IsUnreadable (tree : FileTree) (path : Path) : Prop :=
  ∃ bytes, tree.readBytes path = .ok bytes ∧
    ((∃ error, Utf8.decode bytes = .error error) ∨
      ∃ document fault digits, Utf8.decode bytes = .ok document ∧
        Toml.read document = .error fault ∧ fault.cause = .longInteger digits)

/-- An error that lenient loading passes over. -/
inductive ConfigError.IsForgiven : ConfigError → Prop where
  | parsing (path : Path) (message : String) : IsForgiven (.load (.parsing path message))
  | invalid (error : ValidationError) : IsForgiven (.invalid error)

/-- An error that nothing handles. -/
inductive ConfigError.IsUnhandled : ConfigError → Prop where
  | decoding (error : Utf8.DecodeError) : IsUnhandled (.load (.decoding error))
  | integer (message : String) : IsUnhandled (.load (.integer message))

section Files

variable {tree : FileTree} {path : Path}

theorem isFile_of_readBytes {bytes : Utf8.Bytes} (read : tree.readBytes path = .ok bytes) :
    tree.isFile path = true := by
  rw [FileTree.readBytes] at read
  rw [FileTree.isFile]
  split at read
  · cases read
  · cases read
  · rename_i found
    rw [found]

theorem exists_readBytes (there : tree.isFile path = true) :
    ∃ bytes, tree.readBytes path = .ok bytes := by
  rw [FileTree.isFile] at there
  rw [FileTree.readBytes]
  split at there
  · rename_i bytes found
    exact ⟨bytes, by rw [found]⟩
  · cases there

theorem isFile_of_isUnreadable (unreadable : IsUnreadable tree path) : tree.isFile path = true := by
  rcases unreadable with ⟨bytes, read, _⟩
  exact isFile_of_readBytes read

theorem exists_of_isUnreadable (unreadable : IsUnreadable tree path) :
    ∃ error, loadTable tree path = .error error ∧ (ConfigError.load error).IsUnhandled := by
  rcases unreadable with ⟨bytes, read, ⟨error, decoded⟩ | ⟨document, fault, digits, decoded, parsed,
    cause⟩⟩
  · refine ⟨.decoding error, ?_, .decoding error⟩
    rw [loadTable, read]
    simp only [decoded]
  · refine ⟨.integer (fault.message (Toml.documentText document)), ?_, .integer _⟩
    rw [loadTable, read]
    simp only [decoded, parsed, cause]

/-- A settings file that is there can be read, or it cannot be parsed. -/
theorem isForgiven_of_loadTable {error : LoadError} (there : tree.isFile path = true)
    (readable : ¬ IsUnreadable tree path) (failed : loadTable tree path = .error error) :
    (ConfigError.load error).IsForgiven := by
  rcases exists_readBytes there with ⟨bytes, read⟩
  rw [loadTable, read] at failed
  simp only at failed
  split at failed
  · rename_i decoding decoded
    exact absurd ⟨bytes, read, .inl ⟨decoding, decoded⟩⟩ readable
  · rename_i document decoded
    split at failed
    · cases failed
    · rename_i fault parsed
      split at failed
      · rename_i digits cause
        exact absurd ⟨bytes, read, .inr ⟨document, fault, digits, decoded, parsed, cause⟩⟩ readable
      · cases failed
        exact .parsing _ _

end Files

/-! ## Sources in order -/

namespace Config

variable {surroundings : Surroundings} {error : ConfigError}

theorem fillAll_cons_eq_error_iff {merged : Table} {source : Source} {higher : List Source} :
    fillAll surroundings merged (source :: higher) = .error error ↔
      fill surroundings source = .error error ∨ ∃ given, fill surroundings source = .ok given ∧
        fillAll surroundings (merge merged given.values) higher = .error error := by
  rw [fillAll, bind_eq_error]
  refine or_congr Iff.rfl (exists_congr fun given => and_congr_right fun _ => ?_)
  rw [bind_eq_error]
  simp [pure, Except.pure]

/-- Sources that can be filled one by one can be filled together. -/
theorem exists_fillAll {sources : List Source} (merged : Table)
    (each : ∀ source ∈ sources, ∃ given, fill surroundings source = .ok given) :
    ∃ result, fillAll surroundings merged sources = .ok result := by
  induction sources generalizing merged with
  | nil => exact ⟨_, rfl⟩
  | cons source higher induction =>
      rcases List.forall_mem_cons.mp each with ⟨⟨given, first⟩, later⟩
      rcases induction (merge merged given.values) later with ⟨⟨filled, data⟩, others⟩
      exact ⟨_, fillAll_cons first others⟩

theorem exists_fill_lineSources (request : Request) :
    ∀ source ∈ (⟨.env, none, true, []⟩ : Source) :: lineSources request,
      ∃ given, fill surroundings source = .ok given := by
  intro source member
  rcases List.mem_cons.mp member with rfl | onLine
  · exact ⟨_, rfl⟩
  · rw [lineSources] at onLine
    split at onLine
    · cases List.mem_singleton.mp onLine
      exact ⟨_, rfl⟩
    · cases onLine

section FileSources

variable {name : SourceName} {path : Path}

theorem fill_fileSource_eq_error_iff (ofFile : name = .project ∨ name = .user) :
    fill surroundings (fileSource surroundings.files name path) = .error error ↔
      surroundings.files.isFile path = true ∧
        ∃ cause, loadTable surroundings.files path = .error cause ∧ error = .load cause := by
  have fills : fill surroundings (fileSource surroundings.files name path) =
      match surroundings.files.isFile path with
      | true => ((loadTable surroundings.files path).mapError .load).map fun values =>
          ⟨name, some path, surroundings.files.isFile path, values⟩
      | false => .ok ⟨name, some path, surroundings.files.isFile path, []⟩ := by
    rcases ofFile with rfl | rfl
    all_goals
      rw [fileSource, fill]
      cases surroundings.files.isFile path <;> rfl
  rw [fills]
  cases surroundings.files.isFile path with
  | false => simp
  | true =>
      cases loadTable surroundings.files path with
      | ok values => simp [Except.mapError, Except.map]
      | error cause => simp [Except.mapError, Except.map, eq_comm]

theorem fill_fileSource_eq_ok_iff (ofFile : name = .project ∨ name = .user) :
    (∃ given, fill surroundings (fileSource surroundings.files name path) = .ok given) ↔
      (surroundings.files.isFile path = true →
        ∃ settings, loadTable surroundings.files path = .ok settings) := by
  have fails := @fill_fileSource_eq_error_iff surroundings
  cases filled : fill surroundings (fileSource surroundings.files name path) with
  | ok given =>
      simp only [Except.ok.injEq, exists_eq', true_iff]
      intro there
      cases loaded : loadTable surroundings.files path with
      | ok settings => exact ⟨settings, rfl⟩
      | error cause =>
          have absurdity := (fails ofFile).mpr ⟨there, cause, loaded, rfl⟩
          rw [filled] at absurdity
          cases absurdity
  | error error =>
      rcases (fails ofFile).mp filled with ⟨there, cause, loaded, _⟩
      simp [there, loaded]

end FileSources

end Config

/-! ## The outcome of loading -/

/-- A settings file that ends the loading. That of the user is read first, and a project whose
file is unreadable matters only if the user's file did not fail. -/
inductive IsBroken (surroundings : Surroundings) (projectRoot : Option Path) : Prop where
  | user (unreadable : IsUnreadable surroundings.files (userFilePath surroundings.environment))
  | project {root : Path} (found : projectRoot.or (currentProject? surroundings.files) = some root)
      (unreadable : IsUnreadable surroundings.files (root / projectFileName))
      (passed : surroundings.files.isFile (userFilePath surroundings.environment) = true →
        ∃ settings, loadTable surroundings.files (userFilePath surroundings.environment) =
          .ok settings)

namespace Config

variable {surroundings : Surroundings} {request : Request} {error : ConfigError}

/-- The user's file or, after it, the project's file is all that filling can fail at. -/
theorem fillAll_discover_eq_error_iff (counts : request.includeEnvironment = true) :
    fillAll surroundings [] (discover surroundings request).reverse = .error error ↔
      fill surroundings (fileSource surroundings.files .user
          (userFilePath surroundings.environment)) = .error error ∨
        (∃ given, fill surroundings (fileSource surroundings.files .user
          (userFilePath surroundings.environment)) = .ok given) ∧
        ∃ root, request.projectRoot.or (currentProject? surroundings.files) = some root ∧
          fill surroundings (fileSource surroundings.files .project (root / projectFileName)) =
            .error error := by
  have above (merged : Table) : fillAll surroundings merged
      (⟨.env, none, true, []⟩ :: lineSources request) ≠ .error error := by
    rcases exists_fillAll merged (exists_fill_lineSources request) with ⟨result, filled⟩
    rw [filled]
    exact nofun
  have defaultFilled : fill surroundings ⟨.default, none, true, defaults⟩ =
      .ok ⟨.default, none, true, defaults⟩ := rfl
  rw [discover_reverse surroundings counts, fileSources, fillAll_cons_eq_error_iff, defaultFilled,
    List.cons_append]
  simp only [reduceCtorEq, false_or, Except.ok.injEq, exists_eq_left', fillAll_cons_eq_error_iff]
  cases request.projectRoot.or (currentProject? surroundings.files) with
  | none => simp [above]
  | some root =>
      simp [fillAll_cons_eq_error_iff, above]

theorem exists_read_of_requireValid {data : Table} {source : Option String}
    (valid : requireValid data source = .ok ()) : ∃ typed, TypedSettings.read data = .ok typed := by
  have none : (check .lenient data).findings = [] := by
    cases found : (check .lenient data).findings with
    | nil => rfl
    | cons finding later =>
        rw [requireValid, validate, found] at valid
        cases valid
  simp only [check, List.append_eq_nil_iff] at none
  rcases none with ⟨⟨⟨loggingValid, compileValid⟩, emitValid⟩, -⟩
  rcases sectionOf_of_valid (by rfl) loggingValid with ⟨logging, loggingFound, -, -⟩
  rcases sectionOf_of_valid (by rfl) compileValid with ⟨compile, compileFound, compileNone, -⟩
  rcases sectionOf_of_valid (by rfl) emitValid with ⟨emit, emitFound, -, -⟩
  rcases readCompile_of_valid compileNone with ⟨settings, compileRead, -, -⟩
  refine ⟨⟨readLogging logging, settings, readEmit emit⟩, ?_⟩
  simp only [TypedSettings.read, loggingFound, compileFound, compileRead, emitFound, bind,
    Except.bind]
  rfl

/-- Once all sources are filled, only the validation of what they come to can fail. -/
theorem load_eq_error_iff :
    load surroundings request = .error error ↔
      fillAll surroundings [] (discover surroundings request).reverse = .error error ∨
        ∃ sources data, fillAll surroundings [] (discover surroundings request).reverse =
          .ok (sources, data) ∧ requireValid data none = .error error := by
  rw [load, bind_eq_error]
  refine or_congr Iff.rfl ?_
  rw [Prod.exists]
  refine exists_congr fun sources => exists_congr fun data => and_congr_right fun _ => ?_
  rw [bind_eq_error]
  constructor
  · rintro (refused | ⟨_, valid, failed⟩)
    · exact refused
    · rcases exists_read_of_requireValid valid with ⟨typed, read⟩
      rw [ofMerged, read] at failed
      cases failed
  · exact .inl

theorem isUnhandled_of_isBroken (request : Request)
    (counts : request.includeEnvironment = true)
    (broken : IsBroken surroundings request.projectRoot) :
    ∃ error, load surroundings request = .error error ∧ error.IsUnhandled := by
  cases broken with
  | user unreadable =>
      rcases exists_of_isUnreadable unreadable with ⟨cause, failed, unhandled⟩
      have there := isFile_of_isUnreadable unreadable
      refine ⟨.load cause, load_eq_error_iff.mpr (.inl ?_), unhandled⟩
      refine (fillAll_discover_eq_error_iff counts).mpr (.inl ?_)
      exact (fill_fileSource_eq_error_iff (.inr rfl)).mpr ⟨there, cause, failed, rfl⟩
  | project found unreadable passed =>
      rcases exists_of_isUnreadable unreadable with ⟨cause, failed, unhandled⟩
      have there := isFile_of_isUnreadable unreadable
      refine ⟨.load cause, load_eq_error_iff.mpr (.inl ?_), unhandled⟩
      refine (fillAll_discover_eq_error_iff counts).mpr (.inr ⟨?_, _, found, ?_⟩)
      · exact (fill_fileSource_eq_ok_iff (.inr rfl)).mpr passed
      · exact (fill_fileSource_eq_error_iff (.inl rfl)).mpr ⟨there, cause, failed, rfl⟩

theorem isForgiven_of_load (counts : request.includeEnvironment = true)
    (whole : ¬ IsBroken surroundings request.projectRoot)
    (failed : load surroundings request = .error error) : error.IsForgiven := by
  rcases load_eq_error_iff.mp failed with filling | ⟨sources, data, _, refused⟩
  · rcases (fillAll_discover_eq_error_iff counts).mp filling with
      ofUser | ⟨passed, root, found, ofProject⟩
    · rcases (fill_fileSource_eq_error_iff (.inr rfl)).mp ofUser with ⟨there, cause, loaded, same⟩
      rw [same]
      apply isForgiven_of_loadTable there _ loaded
      intro unreadable
      exact whole (.user unreadable)
    · rcases (fill_fileSource_eq_error_iff (.inl rfl)).mp ofProject with
        ⟨there, cause, loaded, same⟩
      rw [same]
      apply isForgiven_of_loadTable there _ loaded
      intro unreadable
      exact whole (.project found unreadable
        ((fill_fileSource_eq_ok_iff (.inr rfl)).mp passed))
  · rw [requireValid] at refused
    split at refused
    · cases refused
    · cases refused
      exact .invalid _

end Config

def ConfigError.warning (error : ConfigError) : String :=
  s!"Failed to load config: {error.message}"

/-- What lenient loading is to make of an attempt: the configuration, or a warning, the defaults and
the message of the error. -/
def forgiven : Except ConfigError Config → Loading
  | .ok config => ⟨"", .ok (config, none)⟩
  | .error error => ⟨s!"Warning: {error.warning}\n", .ok (plainConfig, some error.message)⟩

/-- A message comes with the defaults. -/
theorem forgiven_of_message {attempt : Except ConfigError Config} {message : String}
    (given : (forgiven attempt).result.toOption.map Prod.snd = some (some message)) :
    forgiven attempt = ⟨(forgiven attempt).told, .ok (plainConfig, some message)⟩ := by
  cases attempt with
  | ok config => cases given
  | error error =>
      cases given
      rfl

theorem told_of_isForgiven {error : ConfigError} (isForgiven : error.IsForgiven) :
    told false (.error error) = forgiven (.error error) := by
  cases isForgiven <;> rfl

theorem told_of_isUnhandled {error : ConfigError} (unhandled : error.IsUnhandled) (strict : Bool) :
    told strict (.error error) = ⟨"", .error (.escaped error)⟩ := by
  cases unhandled <;> simp only [told, handle]

/-- A process whose working directory holds a settings file. -/
def projectHolding (bytes : Utf8.Bytes) : Surroundings :=
  ⟨⟨.directory [("typedhtml.toml", .file bytes)], []⟩, [("TYPEDHTML_STRICT_CONFIG", "0")]⟩

/-- The message of a settings file that stops after an open bracket. -/
def openTableMessage : String :=
  "Failed to parse TOML file: Expected ']' at the end of a table declaration " ++
    "(at line 1, column 9)"

end Stencil.Settings
