import Stencil.Value.Shown

/-!
Settings with a type of their own, and their reading from a table that need not be valid. A wrong
level, format or size falls back to its default, and every other option takes what it can from any
value; only a section that is no table, or a list of patterns that cannot be gone through, has no
reading.
-/

namespace Stencil.Settings

inductive LogLevel where
  | debug
  | info
  | warning
  | error
deriving DecidableEq, Repr

namespace LogLevel

def all : List LogLevel := [debug, info, warning, error]

def name : LogLevel → String
  | debug => "debug"
  | info => "info"
  | warning => "warning"
  | error => "error"

def ofName? (name : String) : Option LogLevel := all.find? (·.name == name)

end LogLevel

inductive LogFormat where
  | json
  | text
deriving DecidableEq, Repr

namespace LogFormat

def all : List LogFormat := [json, text]

def name : LogFormat → String
  | json => "json"
  | text => "text"

def ofName? (name : String) : Option LogFormat := all.find? (·.name == name)

end LogFormat

structure LoggingSettings where
  level : LogLevel := .info
  format : LogFormat := .json
  file : String := ""
  maxBytes : Option Int := none
  backupCount : Option Int := none
deriving DecidableEq, Repr

structure CompileSettings where
  minify : Bool := true
  exclude : List String := []
deriving DecidableEq, Repr

structure EmitSettings where
  checkSyntax : Bool := true
deriving DecidableEq, Repr

structure TypedSettings where
  logging : LoggingSettings := {}
  compile : CompileSettings := {}
  emit : EmitSettings := {}
deriving DecidableEq, Repr

/-- The settings that hold where nothing else is said. -/
def defaults : Table := [
  ("logging", .table [("level", .text "info"), ("format", .text "json"), ("file", .text "")]),
  ("compile", .table [("minify", .bool true), ("exclude", .list [])]),
  ("emit", .table [("check_syntax", .bool true)])]

/-- Why a table has no reading. -/
inductive ShapeError where
  | notATable (kind : String)
  | notAList (kind : String)
deriving DecidableEq, Repr

def ShapeError.message : ShapeError → String
  | notATable kind => s!"'{kind}' object has no attribute 'get'"
  | notAList kind => s!"'{kind}' object is not iterable"

/-! ## Options -/

def textOf? : Value → Option String
  | .text value => some value
  | _ => none

/-- The integer of a value that is one and no less than `least`. -/
def sizeFrom? (least : Int) : Value → Option Int
  | .int value => if least ≤ value then some value else none
  | _ => none

/-- The members of a value that can be gone through, as texts: of a text its characters, of a
table its keys. -/
def memberTexts : Value → Except ShapeError (List String)
  | .list members => .ok (members.map Value.shown)
  | .text value => .ok (value.toList.map .singleton)
  | .table entries => .ok (entries.map (·.1))
  | value => .error (.notAList value.kind)

def readLogging (options : Table) : LoggingSettings where
  level := ((Table.find? options "level").bind fun value =>
    (textOf? value).bind LogLevel.ofName?).getD .info
  format := ((Table.find? options "format").bind fun value =>
    (textOf? value).bind LogFormat.ofName?).getD .json
  file := (Table.find? options "file").elim "" Value.shown
  maxBytes := (Table.find? options "max_bytes").bind (sizeFrom? 1)
  backupCount := (Table.find? options "backup_count").bind (sizeFrom? 0)

def readCompile (options : Table) : Except ShapeError CompileSettings := do
  let exclude ← ((Table.find? options "exclude").map memberTexts).getD (.ok [])
  return { minify := (Table.find? options "minify").elim true Value.isTruthy, exclude }

def readEmit (options : Table) : EmitSettings where
  checkSyntax := (Table.find? options "check_syntax").elim true Value.isTruthy

/-- The options of a section; a section that is missing has none. -/
def sectionOf (settings : Table) (name : String) : Except ShapeError Table :=
  match Table.find? settings name with
  | none => .ok []
  | some (.table options) => .ok options
  | some value => .error (.notATable value.kind)

/-- The reading of a table of settings. -/
def TypedSettings.read (settings : Table) : Except ShapeError TypedSettings := do
  let logging := readLogging (← sectionOf settings "logging")
  let compile ← readCompile (← sectionOf settings "compile")
  let emit := readEmit (← sectionOf settings "emit")
  return { logging, compile, emit }

end Stencil.Settings
