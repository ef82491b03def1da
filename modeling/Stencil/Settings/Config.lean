import Stencil.Settings.Source
import Stencil.Settings.Validation

/-!
The configuration of a run: the settings of all sources merged over each other, with their typed
reading and the sources that they came from.
-/

namespace Stencil.Settings

/-- The issues of what a source sets. A source that does not exist has none. -/
def validateSource (source : Source) : List Issue :=
  if source.exists then
    (check .lenient source.values).findings.map (Finding.toIssue (some source.name.name))
  else []

structure Config where
  data : Table
  sources : List Source
  typed : TypedSettings
deriving Repr

/-- Why there is no configuration. -/
inductive ConfigError where
  | load (error : LoadError)
  | invalid (error : ValidationError)
  | shape (error : ShapeError)
deriving Repr

def ConfigError.message : ConfigError → String
  | load error => error.message
  | invalid error => error.message
  | shape error => error.message

namespace Config

/-- Merged settings with their typed reading. -/
def ofMerged (data : Table) (sources : List Source) : Except ConfigError Config :=
  match TypedSettings.read data with
  | .ok typed => .ok { data, sources, typed }
  | .error error => .error (.shape error)

/-- Refuses settings with an issue, which is put down to `source`. -/
def requireValid (data : Table) (source : Option String) : Except ConfigError Unit :=
  match firstError? (validate .lenient data) source with
  | none => .ok ()
  | some error => .error (.invalid error)

def ofTable (data : Table) (validated : Bool) : Except ConfigError Config := do
  let merged := merge defaults data
  if validated then requireValid merged none
  ofMerged merged []

/-- The configuration of a single settings file. -/
def ofFile (tree : FileTree) (path : Path) (validated : Bool) : Except ConfigError Config := do
  let data ← (loadTable tree path).mapError .load
  let merged := merge defaults data
  if validated then requireValid merged (some path.toString)
  ofMerged merged [⟨.project, some path, true, data⟩]

/-- A source with the values that it has at the time. -/
def fill (surroundings : Surroundings) (source : Source) : Except ConfigError Source :=
  match source.name with
  | .default | .cli => .ok source
  | .env =>
      .ok { source with values := fromEnvironment surroundings.environment variablePrefix }
  | .project | .user =>
      match source.path, source.exists with
      | some path, true =>
          ((loadTable surroundings.files path).mapError .load).map fun values =>
            { source with values }
      | _, _ => .ok { source with values := [] }

/-- Sources with their values, and all of them merged. The lowest in rank comes first, and the
first that cannot be read ends the loading. -/
def fillAll (surroundings : Surroundings) (merged : Table) :
    List Source → Except ConfigError (List Source × Table)
  | [] => .ok ([], merged)
  | source :: higher => do
      let filled ← fill surroundings source
      let (sources, data) ← fillAll surroundings (merge merged filled.values) higher
      return (filled :: sources, data)

/-- The configuration of all sources. -/
def load (surroundings : Surroundings) (request : Request) : Except ConfigError Config := do
  let (sources, data) ← fillAll surroundings [] (discover surroundings request).reverse
  requireValid data none
  ofMerged data sources.reverse

/-- The value under a dotted key. -/
def get? (config : Config) (key : String) : Option Value :=
  getNested? config.data key

/-- The merged settings, or of these only what differs from the defaults. -/
def toTable (config : Config) (includeDefaults : Bool) : Table :=
  if includeDefaults then config.data else differences defaults config.data

end Config

end Stencil.Settings
