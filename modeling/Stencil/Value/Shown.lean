import Stencil.Number.Layout
import Stencil.Text.Lines
import Stencil.Text.Quoted
import Stencil.Value.Basic

/-!
Values as they are shown in running text. A text on its own is shown as it is; inside a list or a
table, and wherever its bounds must be seen, it is shown quoted, and a date by the call that makes
it.
-/

namespace Stencil

def callText (function : String) (arguments : List String) : String :=
  function ++ "(" ++ joinTexts ", " arguments ++ ")"

def Date.call (date : Date) : String :=
  callText "datetime.date" ([date.year, date.month, date.day].map toString)

/-- The parts of a time down to the last one that is needed; hour and minute always are. -/
def TimeOfDay.parts (time : TimeOfDay) : List Nat :=
  [time.hour, time.minute] ++
    if time.microsecond != 0 then [time.second, time.microsecond]
    else if time.second != 0 then [time.second]
    else []

def TimeOfDay.call (time : TimeOfDay) : String :=
  callText "datetime.time" (time.parts.map toString)

def offsetCall (offset : Int) : String :=
  if offset == 0 then "datetime.timezone.utc"
  else
    let seconds := offset * 60
    let arguments :=
      if offset < 0 then ["days=-1", s!"seconds={86400 + seconds}"] else [s!"seconds={seconds}"]
    callText "datetime.timezone" [callText "datetime.timedelta" arguments]

def DateTime.call (value : DateTime) : String :=
  callText "datetime.datetime"
    (([value.date.year, value.date.month, value.date.day] ++ value.time.parts).map toString ++
      match value.offset with
      | none => []
      | some offset => ["tzinfo=" ++ offsetCall offset])

namespace Value

mutual

/-- The form that shows the bounds of a value. -/
def quoted : Value → String
  | null => "None"
  | bool true => "True"
  | bool false => "False"
  | int value => toString value
  | float value => NumberLayout.plain.write value
  | text value => Quoted.literal value
  | date value => value.call
  | time value => value.call
  | dateTime value => value.call
  | list members => "[" ++ joinTexts ", " (quotedAll members) ++ "]"
  | table entries => "\x7b" ++ joinTexts ", " (quotedEntries entries) ++ "\x7d"

def quotedAll : List Value → List String
  | [] => []
  | value :: later => value.quoted :: quotedAll later

def quotedEntries : List (String × Value) → List String
  | [] => []
  | (key, value) :: later => (Quoted.literal key ++ ": " ++ value.quoted) :: quotedEntries later

end

/-- The form of a value in running text. -/
def shown : Value → String
  | text value => value
  | date value => value.toString
  | time value => value.toString
  | dateTime value => value.write " "
  | value => value.quoted

example : (list [text "x", null, date ⟨2020, 1, 2⟩]).shown = "['x', None, datetime.date(2020, 1, 2)]" := by
  decide +kernel

end Value

end Stencil
