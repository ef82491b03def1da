import Stencil.Json.Write
import Stencil.Log.Level
import Stencil.Settings.Typed

/-!
Log records as lines. A record has an event, a level, a time, and values under keys: those that
are bound to the log come first, and an event that gives a bound key another value leaves it in its
place. A line is either a JSON object or text in columns, in which the keys are sorted.
-/

namespace Stencil.Log

structure Record where
  level : Level
  event : String
  values : Table
deriving Repr

/-- Values of an event over those that are bound to the log. -/
def overlay (bound values : Table) : Table :=
  values.foldl (fun table entry => Table.set table entry.1 entry.2) bound

/-- The entries of a record at a time, in the order of a JSON object. -/
def Record.entries (record : Record) (time : String) : Table :=
  overlay record.values
    [("event", .text record.event), ("level", .text record.level.name), ("timestamp", .text time)]

def jsonLine (time : String) (record : Record) : String :=
  Json.recordText (.table (record.entries time))

/-! ## Columns -/

def padEnd (width : Nat) (text : String) : String :=
  text ++ .ofList (List.replicate (width - text.length) ' ')

/-- Whether a text must be quoted to be told from what stands around it. -/
def needsQuotes (text : String) : Bool :=
  text.toList.any " \t=\r\n\"'".toList.contains

def columnValue : Value → String
  | .text text => if needsQuotes text then Quoted.literal text else text
  | value => value.quoted

/-- Keys that have a column of their own. -/
def columnKeys : List String := ["event", "level", "timestamp"]

/-- Keys of the names of logs, whose values stand alone in brackets. -/
def nameKeys : List String := ["logger", "logger_name"]

def keyBefore (left right : String × Value) : Bool := left.1 ≤ right.1

def levelWidth : Nat := 9

def eventWidth : Nat := 30

def dropTrailingSpaces (text : String) : String :=
  .ofList (text.toList.reverse.dropWhile (· == ' ')).reverse

def textLine (time : String) (record : Record) : String :=
  let entries := record.entries time
  let names := nameKeys.filterMap fun key =>
    (Table.find? entries key).map fun value => "[" ++ value.shown ++ "]"
  let others := entries.filter fun entry => !(columnKeys ++ nameKeys).contains entry.1
  let pairs := (others.mergeSort keyBefore).map fun (key, value) => key ++ "=" ++ columnValue value
  dropTrailingSpaces (joinTexts " " ([time, "[" ++ padEnd levelWidth record.level.name ++ "]",
    padEnd eventWidth record.event] ++ names ++ pairs))

/-- The line of a record, without its end. -/
def Record.line (record : Record) (format : Settings.LogFormat) (time : String) : String :=
  match format with
  | .json => jsonLine time record
  | .text => textLine time record

example : (Record.mk .info "one" [("z", .int 1), ("a", .text "x y")]).line .text "T" =
    "T [info     ] one                            a='x y' z=1" := by
  cbv

end Stencil.Log
