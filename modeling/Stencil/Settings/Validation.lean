import Stencil.Settings.Coercion
import Stencil.Settings.Typed

/-!
Validation of a table of settings. It says of each option whether its value can be taken, in the
order of the options, and what the settings are if all can. Lenient validation passes over keys
that it does not know; strict validation has a problem with each of them.
-/

namespace Stencil.Settings

/-- A problem with the value at a chain of keys. -/
structure Finding where
  place : List String
  problem : Problem
  actual : Value
deriving Repr

/-- A reading with all that was found on the way; the value counts only if that is nothing. -/
structure Checked (α : Type) where
  findings : List Finding
  value : α

namespace Checked

def toExcept {α : Type} (checked : Checked α) : Except (List Finding) α :=
  if checked.findings.isEmpty then .ok checked.value else .error checked.findings

end Checked

/-- The value of an option; one that is missing has its default. -/
def checkOption {α : Type} (options : Table) (name : String) (default : α)
    (read : Value → Except Problem α) : Checked α :=
  match Table.find? options name with
  | none => ⟨[], default⟩
  | some value =>
      match read value with
      | .ok taken => ⟨[], taken⟩
      | .error problem => ⟨[⟨[name], problem, value⟩], default⟩

/-! ## Options -/

def toLevel (value : Value) : Except Problem LogLevel :=
  match (textOf? value).bind LogLevel.ofName? with
  | some level => .ok level
  | none => .error .level

def toFormat (value : Value) : Except Problem LogFormat :=
  match (textOf? value).bind LogFormat.ofName? with
  | some format => .ok format
  | none => .error .format

def toText : Value → Except Problem String
  | .text value => .ok value
  | _ => .error .text

/-- A size that may also be left open. -/
def toSize (least : Int) : Value → Except Problem (Option Int)
  | .null => .ok none
  | value => (toIntegerFrom least value).map some

/-- What is wrong with the members of a list of texts, the first of them at `position`. -/
def checkTexts (position : Nat) : List Value → Checked (List String)
  | [] => ⟨[], []⟩
  | member :: later =>
      let rest := checkTexts (position + 1) later
      match toText member with
      | .ok text => ⟨rest.findings, text :: rest.value⟩
      | .error problem =>
          ⟨⟨["exclude", toString position], problem, member⟩ :: rest.findings, rest.value⟩

def checkExclude (options : Table) : Checked (List String) :=
  match Table.find? options "exclude" with
  | none => ⟨[], []⟩
  | some (.list members) => checkTexts 0 members
  | some value => ⟨[⟨["exclude"], .tuple, value⟩], []⟩

/-! ## Sections -/

inductive Strictness where
  | lenient
  | strict
deriving DecidableEq, Repr

def loggingOptions : List String := ["level", "format", "file", "max_bytes", "backup_count"]

def compileOptions : List String := ["minify", "exclude"]

def emitOptions : List String := ["check_syntax"]

def sectionNames : List String := ["logging", "compile", "emit"]

/-- The keys that are none of the known ones, each a finding if validation is strict. -/
def unknownKeys (strictness : Strictness) (known : List String) (entries : Table) :
    List Finding :=
  match strictness with
  | .lenient => []
  | .strict =>
      (entries.filter fun entry => !known.contains entry.1).map fun entry =>
        ⟨[entry.1], .extra, entry.2⟩

def checkLogging (options : Table) : Checked LoggingSettings :=
  let level := checkOption options "level" .info toLevel
  let format := checkOption options "format" .json toFormat
  let file := checkOption options "file" "" toText
  let maxBytes := checkOption options "max_bytes" none (toSize 1)
  let backupCount := checkOption options "backup_count" none (toSize 0)
  { findings :=
      level.findings ++ format.findings ++ file.findings ++ maxBytes.findings ++
        backupCount.findings
    value := ⟨level.value, format.value, file.value, maxBytes.value, backupCount.value⟩ }

def checkCompile (options : Table) : Checked CompileSettings :=
  let minify := checkOption options "minify" true toTruth
  let exclude := checkExclude options
  ⟨minify.findings ++ exclude.findings, ⟨minify.value, exclude.value⟩⟩

def checkEmit (options : Table) : Checked EmitSettings :=
  let checkSyntax := checkOption options "check_syntax" true toTruth
  ⟨checkSyntax.findings, ⟨checkSyntax.value⟩⟩

/-- The name of the model that a section is held against. -/
def modelName (strictness : Strictness) (base : String) : String :=
  match strictness with
  | .lenient => base
  | .strict => base ++ "Strict"

/-- The reading of a section, with its name in front of every place. -/
def checkSection {α : Type} (strictness : Strictness) (settings : Table) (name model : String)
    (known : List String) (default : α) (check : Table → Checked α) : Checked α :=
  match Table.find? settings name with
  | none => ⟨[], default⟩
  | some (.table options) =>
      let checked := check options
      { findings := (checked.findings ++ unknownKeys strictness known options).map fun finding =>
          { finding with place := name :: finding.place }
        value := checked.value }
  | some value => ⟨[⟨[name], .section (modelName strictness model), value⟩], default⟩

/-- All that validation finds in a table of settings, and the settings themselves. -/
def check (strictness : Strictness) (settings : Table) : Checked TypedSettings :=
  let logging := checkSection strictness settings "logging" "LoggingConfig" loggingOptions {}
    checkLogging
  let compile := checkSection strictness settings "compile" "CompileConfig" compileOptions {}
    checkCompile
  let emit := checkSection strictness settings "emit" "EmitConfig" emitOptions {} checkEmit
  { findings :=
      logging.findings ++ compile.findings ++ emit.findings ++
        unknownKeys strictness sectionNames settings
    value := ⟨logging.value, compile.value, emit.value⟩ }

/-- The settings that validation takes a table for. -/
def accept (strictness : Strictness) (settings : Table) :
    Except (List Finding) TypedSettings :=
  (check strictness settings).toExcept

/-! ## Issues -/

/-- Quoted words as alternatives in running text. -/
def alternatives (words : List String) : String :=
  let quoted := words.map fun word => "'" ++ word ++ "'"
  if quoted.length ≤ 1 then String.join quoted
  else joinTexts ", " quoted.dropLast ++ " or " ++ quoted.getLast?.getD ""

def Problem.expected : Problem → Option String
  | level => some (alternatives (LogLevel.all.map LogLevel.name))
  | format => some (alternatives (LogFormat.all.map LogFormat.name))
  | _ => none

def Problem.message : Problem → String
  | level => s!"Input should be {alternatives (LogLevel.all.map LogLevel.name)}"
  | format => s!"Input should be {alternatives (LogFormat.all.map LogFormat.name)}"
  | text => "Input should be a valid string"
  | truth => "Input should be a valid boolean"
  | truthWord => "Input should be a valid boolean, unable to interpret input"
  | integer => "Input should be a valid integer"
  | numeral => "Input should be a valid integer, unable to parse string as an integer"
  | fractional => "Input should be a valid integer, got a number with a fractional part"
  | notFinite => "Input should be a finite number"
  | tooLarge => "Unable to parse input string as an integer, exceeded maximum size"
  | below least => s!"Input should be greater than or equal to {least}"
  | tuple => "Input should be a valid tuple"
  | .section model => s!"Input should be a valid dictionary or instance of {model}"
  | extra => "Extra inputs are not permitted"

inductive Severity where
  | error
  | warning
deriving DecidableEq, Repr

def Severity.name : Severity → String
  | error => "error"
  | warning => "warning"

/-- A problem as it is told: under a dotted key, with the source where the value came from. -/
structure Issue where
  key : String
  message : String
  expected : Option String
  actual : Value
  source : Option String
  severity : Severity
deriving Repr

def Finding.toIssue (source : Option String) (finding : Finding) : Issue where
  key := joinTexts "." finding.place
  message := finding.problem.message
  expected := finding.problem.expected
  actual := finding.actual
  source := source
  severity := .error

/-- The issues of a table of settings. -/
def validate (strictness : Strictness) (settings : Table) : List Issue :=
  (check strictness settings).findings.map (Finding.toIssue none)

/-- The first error among issues, as the reason for which settings are refused. -/
structure ValidationError where
  key : String
  value : Value
  expected : String
  source : Option String
deriving Repr

def ValidationError.message (error : ValidationError) : String :=
  s!"Invalid configuration value for '{error.key}'"

def nonEmpty (text : Option String) : Option String :=
  text.filter (· != "")

def firstError? (issues : List Issue) (source : Option String) : Option ValidationError :=
  (issues.find? (·.severity == .error)).map fun issue =>
    { key := issue.key
      value := issue.actual
      expected := (nonEmpty issue.expected).getD issue.message
      source := (nonEmpty source).or issue.source }

end Stencil.Settings
