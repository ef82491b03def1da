import Stencil.CommandLine.Console
import Stencil.CommandLine.ExitCode
import Stencil.CommandLine.Request
import Stencil.Conversion
import Stencil.Json.Write
import Stencil.Log.Journal
import Stencil.Markdown.Table
import Stencil.Settings.Forgiving
import Stencil.Toml.Write
import Stencil.Yaml.Write

/-!
Running of a command line. A command works on the files that it finds and leaves the files that it
wrote, the text for both of its outputs, and an exit code. Some errors have no exit code and end
the program instead.
-/

namespace Stencil.CommandLine

/-- What a command comes to. -/
structure Outcome where
  code : Nat
  out : String := ""
  err : String := ""
  files : FileTree

/-- An error without an exit code. -/
inductive Escape where
  | config (error : Settings.ConfigError)
  | journal (error : Log.OpenError)
  | pattern (error : Ignore.PatternError)
  /-- A path that no operation takes. -/
  | path (error : FileError)
  /-- A value that is missing has no form in TOML. -/
  | missingValue
  | json (error : Json.WriteError)
  /-- A time without a date has no form in YAML. -/
  | loneTime (time : TimeOfDay)
deriving Repr

def Escape.message : Escape → String
  | config error => error.message
  | journal error => error.message
  | pattern error => error.message
  | path error => error.message
  | missingValue => Toml.missingValueMessage
  | json error => error.message
  | loneTime time => Yaml.unwritableMessage time

/-- What holds for a command: its configuration, whether it is to be quiet, and the journal that
it keeps. -/
structure Session where
  config : Settings.Config := Settings.plainConfig
  isQuiet : Bool := false
  journal : Option Log.Journal := none

def fail (files : FileTree) (kind : FailureKind) (message : String) : Outcome :=
  { code := kind.exitCode, err := errorLine message, files }

def showText (files : FileTree) (text : String) : Outcome :=
  { code := successCode, out := .ofList (trimEnd text.toList) ++ "\n", files }

/-! ## Conversion -/

/-- Records events in the journal of a session, if there is one. -/
def Session.recordAll (session : Session) (files : FileTree) (events : List Event) : FileTree :=
  match session.journal with
  | none => files
  | some journal => events.foldl journal.recordEvent files

def Session.recordFailure (session : Session) (files : FileTree) (path : Path)
    (error : ConversionError) : FileTree :=
  match session.journal with
  | none => files
  | some journal =>
      journal.record files .error "conversion_failed"
        [("path", .text path.toString), ("error", .text error.message)]

/-- Writes a source to a file, whose directory is made if it is missing. -/
def writeSource (files : FileTree) (path : Path) (source : String) : Except FileError FileTree := do
  let files ← files.makeDirectories path.parent
  files.writeBytes path (Utf8.encode source)

/-- Puts a source where it is asked for. -/
def Session.deliver (session : Session) (files : FileTree) (output : Option Path)
    (source : String) : Except Escape Outcome :=
  match output with
  | none => .ok { code := successCode, out := source, files }
  | some path =>
      match writeSource files path source with
      | .error ⟨.nullCharacter, path⟩ => .error (.path ⟨.nullCharacter, path⟩)
      | .error error =>
          .ok (fail files (.ofFileError error) s!"Failed to write {path}: {error.message}")
      | .ok files =>
          let told := if session.isQuiet then "" else plainLine s!"Wrote {path}"
          .ok { code := successCode, err := told, files }

/-- The files as a conversion finds them, whose journal may be one of its templates: it is read as
far as it is written when its turn comes. Bytes that are no text in its place stop the conversion
there and so tell which events come before. -/
def Session.filesFor (session : Session) (files : FileTree)
    (convert : FileTree → Run ConversionError String) : FileTree :=
  match session.journal with
  | none => files
  | some journal =>
      let marked := { files with root := FileTree.setAt files.root journal.place (.file [0xff]) }
      let stopped := convert marked
      match stopped.result with
      | .error (.reading (.decoding _)) => session.recordAll files stopped.events
      | _ => files

/-- Runs a conversion on files that have the journal of the session already. -/
def Session.convert (session : Session) (files : FileTree) (path : Path) (output : Option Path)
    (convert : FileTree → Run ConversionError String) : Except Escape Outcome :=
  let run := convert (session.filesFor files convert)
  let files := session.recordAll files run.events
  match run.result with
  | .ok source => session.deliver files output source
  | .error (.pattern error) => .error (.pattern error)
  | .error (.reading (.file ⟨.nullCharacter, path⟩)) => .error (.path ⟨.nullCharacter, path⟩)
  | .error error =>
      .ok (fail (session.recordFailure files path error) (.ofConversionError error)
        s!"Failed to convert {path}: {error.message}")

/-! ## Fields -/

/-- The class of a template file and the fields that its header declares. -/
def readHeader (files : FileTree) (path : Path) :
    Except ConversionError (String × List Field) := do
  let name ← (className path.name).mapError .fileName
  let document ← (files.readText path).mapError .reading
  let fields ← (headerFields document).mapError .header
  return (name, fields)

def fieldsData (name : String) (fields : List Field) : Table := [
  ("name", .text name),
  ("fields", .list (fields.map fun field =>
    .table [("name", .text field.name), ("type", .text field.type)]))]

/-- Numbered rows of fields. -/
def fieldRows (number : Nat) : List Field → List (List String)
  | [] => []
  | field :: later => [toString number, field.name, field.type] :: fieldRows (number + 1) later

def fieldsTable (name : String) (fields : List Field) : String :=
  if fields.isEmpty then s!"{name} declares no fields"
  else Markdown.table ["#", "Name", "Type"] (fieldRows 1 fields)

/-- A table as JSON text for a reader. -/
def jsonText (data : Table) : Except Escape String :=
  (Json.write .spread data).mapError .json

def yamlText (data : Table) : Except Escape String :=
  (Yaml.write data).mapError .loneTime

def tomlText (data : Table) : Except Escape String :=
  match Toml.write? data with
  | some text => .ok text
  | none => .error .missingValue

def fieldsText (name : String) (fields : List Field) : FieldsFormat → Except Escape String
  | .table => .ok (fieldsTable name fields)
  | .json => jsonText (fieldsData name fields)
  | .yaml => yamlText (fieldsData name fields)

def showFields (files : FileTree) (path : Path) (format : FieldsFormat) :
    Except Escape Outcome :=
  match readHeader files path with
  | .error (.reading (.file ⟨.nullCharacter, path⟩)) => .error (.path ⟨.nullCharacter, path⟩)
  | .error error =>
      .ok (fail files (.ofConversionError error) s!"Failed to read {path}: {error.message}")
  | .ok (name, fields) => (fieldsText name fields format).map (showText files)

/-! ## The configuration -/

/-- The settings that are shown: all of them, or a section that holds any. -/
def shownSettings? (settings : Table) (name : String) : Option Table :=
  if name == "" then some settings
  else match Table.find? settings name with
  | some (.table options) => some [(name, .table options)]
  | _ => none

def settingsText (settings : Table) : ConfigFormat → Except Escape String
  | .toml => tomlText settings
  | .json => jsonText settings
  | .yaml => yamlText settings

def Session.showConfig (session : Session) (files : FileTree) (format : ConfigFormat)
    (name : String) (includeDefaults : Bool) : Except Escape Outcome :=
  match shownSettings? (session.config.toTable includeDefaults) name with
  | none => .ok (fail files .settings s!"Section '{name}' not found")
  | some settings => (settingsText settings format).map (showText files)

/-! ## Commands -/

def Session.perform (session : Session) (files : FileTree) :
    Command → Except Escape Outcome
  | .convertFile path options =>
      let settings := session.config.typed
      session.convert files path options.output fun files =>
        convertFile files path (settings.compile.minify && options.minify)
          settings.emit.checkSyntax
  | .convertDirectory path options =>
      let settings := session.config.typed
      session.convert files path options.output fun files =>
        convertDirectory files path (settings.compile.minify && options.minify)
          settings.emit.checkSyntax settings.compile.exclude
  | .showFields path format => showFields files path format
  | .showConfig format name includeDefaults =>
      session.showConfig files format name includeDefaults
  | .help => .ok { code := successCode, out := helpText, files }
where
  helpText : String := joinTexts "\n" [
    "Usage: typedhtml [--verbose] [--quiet] [--config PATH] [--project-root PATH] COMMAND",
    "",
    "  file PATH [--output PATH] [--no-minify]",
    "  dir PATH [--output PATH] [--no-minify]",
    "  fields PATH [--format table|json|yaml]",
    "  config show [--format toml|json|yaml] [--section NAME] [--no-defaults]",
    ""]

def refuse (files : FileTree) (error : UsageError) : Outcome :=
  { code := usageCode, err := errorLine error.message, files }

/-- Runs the command that a line asks for. -/
def Session.run (session : Session) (files : FileTree) (line : List String) :
    Except Escape Outcome :=
  match readCommand line with
  | .ok command => session.perform files command
  | .error error => .ok (refuse files error)

/-! ## The program -/

/-- What the options for all commands set over all other settings. -/
def GlobalOptions.overrides (options : GlobalOptions) : Option Table :=
  if options.isVerbose then some [("logging", .table [("level", .text "debug")])] else none

/-- The log that settings ask for while a command runs. -/
def commandLog (settings : Settings.LoggingSettings) (command : String) : Log.CommandLog where
  level := settings.level.name
  format := settings.format
  file := settings.file
  maxBytes := settings.maxBytes
  backupCount := settings.backupCount
  command := command

/-- Puts a text in front of what a command tells. -/
def Outcome.telling (outcome : Outcome) (told : String) : Outcome :=
  { outcome with err := told ++ outcome.err }

/-- Runs a command with the configuration that its surroundings give it. -/
def runConfigured (surroundings : Settings.Surroundings) (time : String)
    (options : GlobalOptions) (line : List String) : Except Escape Outcome := do
  let loading := Settings.loadForCommand surroundings options.config options.projectRoot
    options.overrides
  match loading.result with
  | .error (.exit code) => return { code, err := loading.told, files := surroundings.files }
  | .error (.escaped error) => .error (.config error)
  | .ok (config, _) =>
      let log := commandLog config.typed.logging (line.head?.getD "")
      let (files, journal) ←
        (log.open surroundings.files surroundings.environment time).mapError .journal
      let session : Session := { config, isQuiet := options.isQuiet, journal }
      return (← session.run files line).telling loading.told

/-- Runs a command line at a time, which the records of its journal bear. -/
def run (surroundings : Settings.Surroundings) (time : String) (line : List String) :
    Except Escape Outcome :=
  if asksForHelp line then ({} : Session).perform surroundings.files .help
  else match readGlobal line with
  | .ok (options, rest) => runConfigured surroundings time options rest
  | .error error => .ok (refuse surroundings.files error)

/-- How the program ends on the files that were there. An error without an exit code is told as it
is, and no file changes. -/
def ending (files : FileTree) : Except Escape Outcome → Outcome
  | .ok outcome => outcome
  | .error escape => { code := 1, err := escape.message ++ "\n", files }

end Stencil.CommandLine
