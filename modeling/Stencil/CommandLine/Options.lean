import Stencil.Number.Numeral
import Stencil.Text.Lines

/-!
Options among the words of a command line. A switch stands alone and can be turned off by its
negative spelling; any other option has a value, which is the next word, or follows an equals sign
or a short spelling in the same word. Words that are no option keep their order, and behind two
hyphens no word is an option.
-/

namespace Stencil.CommandLine

/-- Why a command line is not understood. -/
inductive UsageError where
  | missingValue (word : String)
  | unusableValue (word value : String)
  | repeatedOption (name : String)
  | unknownOption (word : String)
  | unknownCommand (word : String)
  | missingArgument (name : String)
  | surplusArgument (word : String)
deriving DecidableEq, Repr

def UsageError.message : UsageError → String
  | missingValue word => s!"Option {word} requires a value."
  | unusableValue word value => s!"Invalid value {value} for {word}."
  | repeatedOption name => s!"Option {name} is given more than once."
  | unknownOption word => s!"Unknown option {word}."
  | unknownCommand word => s!"Unknown command {word}."
  | missingArgument name => s!"Argument {name} is missing."
  | surplusArgument word => s!"Unused argument {word}."

inductive OptionKind where
  | switch
  | valued
deriving DecidableEq, Repr

structure OptionSpec where
  name : String
  spellings : List String
  kind : OptionKind
deriving Repr

/-- What is given for an option. -/
inductive Given where
  | switch (isOn : Bool)
  | value (text : String)
deriving DecidableEq, Repr

/-! ## Words -/

def dropStart (count : Nat) (word : String) : String := .ofList (word.toList.drop count)

/-- Numbers with a minus sign are no options, apart from the lone imaginary unit. -/
def isNegativeNumber (word : String) : Bool :=
  Numeral.isPrefixedInteger word ||
    (Numeral.isNumber word && word != "-j" && word != "-J")

def looksLikeOption (word : String) : Bool :=
  word.startsWith "-" && !isNegativeNumber word

example : ["--all", "-o", "-j", "-", "-1x"].all looksLikeOption = true := by decide +kernel

example : ["-1", "-1e5", "-inf", "-2j", "-0x1F", "all"].any looksLikeOption = false := by
  decide +kernel

/-- A long spelling with hyphens for its underscores, which mean the same. -/
def withHyphens (spelling : String) : String :=
  if spelling.startsWith "--" then
    .ofList (spelling.toList.map fun c => if c == '_' then '-' else c)
  else spelling

/-- A word before its first equals sign, and what is behind it. -/
def splitWord (word : String) : String × Option String :=
  let text := word.toList
  match text.dropWhile (· != '=') with
  | _ :: value => (.ofList (text.takeWhile (· != '=')), some (.ofList value))
  | [] => (word, none)

def switchWord? (text : String) : Option Bool :=
  let small := String.ofList (text.toList.map Char.toLower)
  if ["yes", "y", "1", "true", "t"].contains small then some true
  else if ["no", "n", "0", "false", "f"].contains small then some false
  else none

/-- The spelling that turns a switch off. -/
def negative? (spelling : String) : Option String :=
  if spelling.startsWith "--" then some ("--no-" ++ dropStart 2 spelling) else none

/-- What a word of a command line is. -/
inductive WordReading where
  | argument
  | option (name : String) (given : Given)
  /-- An option whose value is the next word. -/
  | awaiting (name : String)
  | wrong (error : UsageError)
deriving Repr

/-- What a spelling of a switch says; the negative one turns a value around. -/
def readSwitch (spec : OptionSpec) (spelling : String) (value : Option String) : WordReading :=
  let isPositive := spec.spellings.contains spelling
  match value with
  | none => .option spec.name (.switch isPositive)
  | some text =>
      match switchWord? text with
      | some isOn => .option spec.name (.switch (isOn == isPositive))
      | none => .wrong (.unusableValue spelling text)

/-- Whether a spelling names an option. -/
def OptionSpec.answersTo (spec : OptionSpec) (spelling : String) : Bool :=
  spec.spellings.contains spelling ||
    (spec.kind == .switch && (spec.spellings.filterMap negative?).contains spelling)

/-- Whether a word begins with a short spelling of an option that takes a value. -/
def OptionSpec.startsShort (spec : OptionSpec) (word : String) : Bool :=
  spec.kind == .valued && spec.spellings.contains (.ofList (word.toList.take 2)) &&
    !word.startsWith "--"

def readWord (specs : List OptionSpec) (word : String) : WordReading :=
  let (written, value) := splitWord word
  let spelling := withHyphens written
  match specs.find? (·.answersTo spelling), specs.find? (·.startsShort word) with
  | some spec, _ =>
      match spec.kind, value with
      | .switch, _ => readSwitch spec spelling value
      | .valued, some text => .option spec.name (.value text)
      | .valued, none => .awaiting spec.name
  | none, some spec => .option spec.name (.value (dropStart 2 word))
  | none, none => .argument

/-! ## Lines -/

/-- The words of a command line: its options, and the words that are left. `literal` holds those
that stand behind two hyphens. -/
structure Words where
  options : List (String × Given) := []
  plain : List String := []
  literal : List String := []
deriving Repr

namespace Words

def withOption (words : Words) (name : String) (given : Given) : Words :=
  { words with options := (name, given) :: words.options }

def withPlain (words : Words) (word : String) : Words :=
  { words with plain := word :: words.plain }

/-- Reads the words before the two hyphens. -/
def readAll (specs : List OptionSpec) : List String → Except UsageError Words
  | [] => .ok {}
  | word :: later =>
      match readWord specs word with
      | .argument => (readAll specs later).map (·.withPlain word)
      | .option name given => (readAll specs later).map (·.withOption name given)
      | .wrong error => .error error
      | .awaiting name =>
          match later with
          | [] => .error (.missingValue word)
          | value :: others =>
              if looksLikeOption value then .error (.missingValue word)
              else (readAll specs others).map (·.withOption name (.value value))

/-- The first name that is given twice. -/
def firstRepeated? : List (String × Given) → Option String
  | [] => none
  | (name, _) :: later =>
      if later.any (·.1 == name) then some name else firstRepeated? later

def delimiter : String := "--"

/-- The words of a command line. Each option may be given once. -/
def read (specs : List OptionSpec) (line : List String) : Except UsageError Words := do
  let words ← readAll specs (line.takeWhile (· != delimiter))
  match firstRepeated? words.options with
  | some name => .error (.repeatedOption name)
  | none => return { words with literal := (line.dropWhile (· != delimiter)).drop 1 }

def value? (words : Words) (name : String) : Option String :=
  match words.options.find? (·.1 == name) with
  | some (_, .value text) => some text
  | _ => none

/-- Whether a switch is on; one that is not given is off. -/
def isOn (words : Words) (name : String) : Bool :=
  (words.options.find? (·.1 == name)).any (·.2 == .switch true)

/-- The arguments, none of which may look like an option. -/
def arguments (words : Words) : Except UsageError (List String) :=
  match words.plain.find? looksLikeOption with
  | some word => .error (.unknownOption word)
  | none => .ok (words.plain ++ words.literal)

end Words

example :
    (Words.read [⟨"output", ["--output", "-o"], .valued⟩, ⟨"quiet", ["--quiet"], .switch⟩]
      ["a", "-o", "b", "--no-quiet", "--", "-c"]).toOption.map
        (fun words => (words.plain, words.options, words.literal)) =
      some (["a"], [("output", .value "b"), ("quiet", .switch false)], ["-c"]) := by
  decide +kernel

end Stencil.CommandLine
