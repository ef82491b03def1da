import Stencil.CommandLine.Options
import Stencil.Path

/-!
Command lines as requests. Options for all commands may stand anywhere; what they leave is a
command with its argument and the options of its own.
-/

namespace Stencil.CommandLine

/-! ## Options for all commands -/

structure GlobalOptions where
  isVerbose : Bool := false
  isQuiet : Bool := false
  config : Option Path := none
  projectRoot : Option Path := none
deriving DecidableEq, Repr

def globalSpecs : List OptionSpec := [
  ⟨"verbose", ["--verbose"], .switch⟩, ⟨"quiet", ["--quiet"], .switch⟩,
  ⟨"config", ["--config"], .valued⟩, ⟨"project-root", ["--project-root"], .valued⟩]

/-- The options for all commands, and the words that are left for the command. These include two
hyphens and all that is behind them. -/
def readGlobal (line : List String) : Except UsageError (GlobalOptions × List String) := do
  let words ← Words.read globalSpecs line
  return ({ isVerbose := words.isOn "verbose"
            isQuiet := words.isOn "quiet"
            config := (words.value? "config").map Path.ofString
            projectRoot := (words.value? "project-root").map Path.ofString },
    words.plain ++ line.dropWhile (· != Words.delimiter))

/-- Words that ask for help or for the version instead of a command. -/
def helpWords : List String := ["--help", "-h", "--version"]

def asksForHelp (line : List String) : Bool :=
  (line.takeWhile (· != Words.delimiter)).any helpWords.contains

/-! ## Commands -/

structure ConversionOptions where
  output : Option Path := none
  minify : Bool := true
deriving DecidableEq, Repr

/-- How fields are shown. -/
inductive FieldsFormat where
  | table
  | json
  | yaml
deriving DecidableEq, Repr

/-- How the configuration is shown. -/
inductive ConfigFormat where
  | toml
  | json
  | yaml
deriving DecidableEq, Repr

inductive Command where
  | convertFile (path : Path) (options : ConversionOptions)
  | convertDirectory (path : Path) (options : ConversionOptions)
  | showFields (path : Path) (format : FieldsFormat)
  | showConfig (format : ConfigFormat) (section? : String) (includeDefaults : Bool)
  | help
deriving DecidableEq, Repr

/-- The only argument of a command. -/
def Words.path (words : Words) : Except UsageError Path := do
  match ← words.arguments with
  | [] => .error (.missingArgument "PATH")
  | [path] => return Path.ofString path
  | _ :: surplus :: _ => .error (.surplusArgument surplus)

def conversionSpecs : List OptionSpec := [
  ⟨"output", ["--output", "-o"], .valued⟩, ⟨"no-minify", ["--no-minify"], .switch⟩]

def readConversion (line : List String) : Except UsageError (Path × ConversionOptions) := do
  let words ← Words.read conversionSpecs line
  return (← words.path,
    { output := (words.value? "output").map Path.ofString
      minify := !words.isOn "no-minify" })

def formatSpec : OptionSpec := ⟨"format", ["--format", "-f"], .valued⟩

def FieldsFormat.ofName? : String → Option FieldsFormat
  | "table" => some table
  | "json" => some json
  | "yaml" => some yaml
  | _ => none

def readFields (line : List String) : Except UsageError Command := do
  let words ← Words.read [formatSpec] line
  let path ← words.path
  match words.value? "format" with
  | none => return .showFields path .table
  | some given =>
      match FieldsFormat.ofName? given with
      | some format => return .showFields path format
      | none => .error (.unusableValue "--format" given)

/-! ### The configuration -/

def isHyphen (c : Char) : Bool := c == '-' || c == '_'

/-- Whether a text is a name written in small letters, in capitals, or with a capital in front.
Hyphens and underscores around it do not count. -/
def namesFormat (name given : String) : Bool :=
  let inner := ((given.toList.dropWhile isHyphen).reverse.dropWhile isHyphen).reverse
  let letters := name.toList
  inner == letters || inner == letters.map Char.toUpper ||
    inner == (letters.take 1).map Char.toUpper ++ letters.drop 1

def ConfigFormat.ofName? (given : String) : Option ConfigFormat :=
  if namesFormat "toml" given then some toml
  else if namesFormat "json" given then some json
  else if namesFormat "yaml" given then some yaml
  else none

def showSpecs : List OptionSpec := [
  formatSpec, ⟨"section", ["--section"], .valued⟩, ⟨"no-defaults", ["--no-defaults"], .switch⟩]

def readShow (line : List String) : Except UsageError Command := do
  let words ← Words.read showSpecs line
  if let surplus :: _ := ← words.arguments then .error (.surplusArgument surplus)
  let command := fun format =>
    Command.showConfig format ((words.value? "section").getD "") (!words.isOn "no-defaults")
  match words.value? "format" with
  | none => return command .toml
  | some given =>
      match ConfigFormat.ofName? given with
      | some format => return command format
      | none => .error (.unusableValue "--format" given)

def readConfig : List String → Except UsageError Command
  | [] => .ok .help
  | "show" :: line => readShow line
  | word :: _ => .error (.unknownCommand word)

/-- The command that a line asks for. -/
def readCommand (line : List String) : Except UsageError Command :=
  if asksForHelp line then .ok .help
  else match line with
  | [] => .ok .help
  | "file" :: line => (readConversion line).map fun (path, options) => .convertFile path options
  | "dir" :: line => (readConversion line).map fun (path, options) => .convertDirectory path options
  | "fields" :: line => readFields line
  | "config" :: line => readConfig line
  | word :: _ => .error (.unknownCommand word)

end Stencil.CommandLine
