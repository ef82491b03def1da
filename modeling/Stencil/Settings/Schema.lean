import Stencil.Settings.Validation

/-!
The JSON schema of settings. Each section has a definition with its options; in the strict form no
other keys are allowed, and the names and descriptions are those of the strict models.
-/

namespace Stencil.Settings.Schema

def record (entries : List (String × Value)) : Value := .table entries

/-- The words of an option name, each with a capital at its front. -/
def titleOf (name : String) : String :=
  joinTexts " " ((splitText '_' name).map fun word =>
    match word.toList with
    | [] => ""
    | c :: rest => .ofList (c.toUpper :: rest))

def option (name kind : String) (default : Value) (more : List (String × Value) := []) :
    String × Value :=
  (name, record (("default", default) :: more ++
    [("title", .text (titleOf name)), ("type", .text kind)]))

def choice (name definition : String) (default : String) : String × Value :=
  (name, record [("$ref", .text ("#/$defs/" ++ definition)), ("default", .text default)])

/-- An integer that may be left open. -/
def size (name : String) (least : Int) (description : String) : String × Value :=
  (name, record [
    ("anyOf", .list [
      record [("minimum", .int least), ("type", .text "integer")],
      record [("type", .text "null")]]),
    ("default", .null),
    ("description", .text description),
    ("title", .text (titleOf name))])

def loggingProperties : List (String × Value) := [
  choice "level" "LogLevel" "info",
  choice "format" "LogFormat" "json",
  option "file" "string" (.text ""),
  size "max_bytes" 1
    ("Maximum size of the log file in bytes before rotation. " ++
      "Must be set together with backup_count for rotation to be enabled."),
  size "backup_count" 0
    ("Number of rotated log files to keep (e.g., 3 for typedhtml.log.1 " ++
      "through typedhtml.log.3). Must be set together with max_bytes for rotation to be enabled.")]

def compileProperties : List (String × Value) := [
  option "minify" "boolean" (.bool true),
  option "exclude" "array" (.list []) [("items", record [("type", .text "string")])]]

def emitProperties : List (String × Value) := [
  option "check_syntax" "boolean" (.bool true)]

/-- An object with properties; a strict one has no others. -/
def model (strictness : Strictness) (name description : String)
    (properties : List (String × Value)) : List (String × Value) :=
  (match strictness with
    | .lenient => []
    | .strict => [("additionalProperties", .bool false)]) ++
  [("description", .text description), ("properties", record properties),
    ("title", .text name), ("type", .text "object")]

/-- The description of a section in either form. -/
def sectionDescription (strictness : Strictness) (name attributes : String) : String :=
  match strictness with
  | .lenient =>
      String.ofList [name.toList.headD ' ' |>.toUpper] ++ String.ofList name.toList.tail ++
        " configuration section.\n\nAttributes:\n" ++ attributes
  | .strict => s!"Pydantic schema for {name} configuration section (strict mode)."

def loggingAttributes : String :=
  "    level: Log level threshold.\n" ++
  "    format: Log output format.\n" ++
  "    file: Path to log file (empty disables logging).\n" ++
  "    max_bytes: Size of the log file in bytes before it is rotated.\n" ++
  "    backup_count: Number of rotated log files to keep."

def compileAttributes : String :=
  "    minify: Collapse insignificant whitespace in template bodies.\n" ++
  "    exclude: Gitignore-style patterns for entries skipped during\n" ++
  "        directory conversion."

def emitAttributes : String :=
  "    check_syntax: Parse emitted source and reject it if it is not valid\n" ++
  "        Python."

def enumeration (name description : String) (values : List String) : String × Value :=
  (name, record [("description", .text description), ("enum", .list (values.map .text)),
    ("title", .text name), ("type", .text "string")])

def definition (strictness : Strictness) (base «section» attributes : String)
    (properties : List (String × Value)) : String × Value :=
  let name := modelName strictness base
  (name, record (model strictness name (sectionDescription strictness «section» attributes)
    properties))

def definitions (strictness : Strictness) : List (String × Value) := [
  definition strictness "CompileConfig" "compile" compileAttributes compileProperties,
  definition strictness "EmitConfig" "emit" emitAttributes emitProperties,
  enumeration "LogFormat" "Log output format values." (LogFormat.all.map LogFormat.name),
  enumeration "LogLevel" "Log level threshold values, most verbose first."
    (LogLevel.all.map LogLevel.name),
  definition strictness "LoggingConfig" "logging" loggingAttributes loggingProperties]

def sectionProperty (strictness : Strictness) (name base : String)
    (default : List (String × Value)) : String × Value :=
  (name, record [("$ref", .text ("#/$defs/" ++ modelName strictness base)),
    ("default", record default)])

def sections (strictness : Strictness) : List (String × Value) := [
  sectionProperty strictness "logging" "LoggingConfig" [("level", .text "info"),
    ("format", .text "json"), ("file", .text ""), ("max_bytes", .null), ("backup_count", .null)],
  sectionProperty strictness "compile" "CompileConfig" [("minify", .bool true),
    ("exclude", .list [])],
  sectionProperty strictness "emit" "EmitConfig" [("check_syntax", .bool true)]]

def modeWord : Strictness → String
  | .lenient => "lenient"
  | .strict => "strict"

end Schema

/-- The JSON schema that settings are held against. -/
def schema (strictness : Strictness) : Value :=
  .table (("$defs", .table (Schema.definitions strictness)) ::
    Schema.model strictness (modelName strictness "ConfigSchema")
      s!"Pydantic schema for root configuration ({Schema.modeWord strictness} mode)."
      (Schema.sections strictness))

end Stencil.Settings
