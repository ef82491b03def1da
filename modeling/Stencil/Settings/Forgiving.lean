import Stencil.Settings.Config

/-!
Loading of the configuration for a command. Settings that cannot be used are either an error that
ends the program, if the environment asks for that, or a warning, and then the defaults hold. A
settings file that is named must be there in any case.
-/

namespace Stencil.Settings

/-- How loading ends if not with a configuration. -/
inductive LoadFailure where
  | exit (code : Nat)
  /-- An error that is neither about settings nor about files. -/
  | escaped (error : ConfigError)
deriving Repr

/-- What loading comes to: the text for the user, and the configuration with the message of an
error that was passed over. -/
structure Loading where
  told : String
  result : Except LoadFailure (Config × Option String)

/-- The configuration without any source. -/
def plainConfig : Config :=
  { data := defaults, sources := [], typed := {} }

def isStrict (environment : Environment) : Bool :=
  Environment.find? environment "TYPEDHTML_STRICT_CONFIG" == some "1"

def failOrWarn (strict : Bool) (message warning : String) : Loading :=
  if strict then ⟨s!"Error: {message}\n", .error (.exit 1)⟩
  else ⟨s!"Warning: {warning}\n", .ok (plainConfig, some message)⟩

/-- What to make of an error: one about settings is told as it is, one about files with what
failed. -/
def handle (strict : Bool) (error : ConfigError) : Loading :=
  let prefixed := s!"Failed to load config: {error.message}"
  match error with
  | .load (.parsing ..) | .invalid _ => failOrWarn strict error.message prefixed
  | .load (.file _) => failOrWarn strict prefixed prefixed
  | _ => ⟨"", .error (.escaped error)⟩

/-- Loads the named settings file, which must be there, or all sources if none is named. -/
def loadForCommand (surroundings : Surroundings) (file projectRoot : Option Path)
    (overrides : Option Table) : Loading :=
  let told : Except ConfigError Config → Loading
    | .ok config => ⟨"", .ok (config, none)⟩
    | .error error => handle (isStrict surroundings.environment) error
  match file with
  | none =>
      told (Config.load surroundings
        { projectRoot, includeCli := overrides.isSome, overrides := overrides.getD [] })
  | some path =>
      match surroundings.files.leadsTo (fun _ => true) path with
      | .error error => told (.error (.load (.file error)))
      | .ok true => told (Config.ofFile surroundings.files path true)
      | .ok false => ⟨s!"Error: Config file not found: {path}\n", .error (.exit 1)⟩

end Stencil.Settings
