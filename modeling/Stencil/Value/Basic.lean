import Stencil.Calendar
import Stencil.Number.Binary64

/-!
Values of configuration data: what a settings file, an environment variable or a log record may
hold. A table keeps its entries in the order in which they were set.
-/

namespace Stencil

inductive Value where
  | null
  | bool (value : Bool)
  | int (value : Int)
  | float (value : Binary64)
  | text (value : String)
  | date (value : Date)
  | time (value : TimeOfDay)
  | dateTime (value : DateTime)
  | list (members : List Value)
  | table (entries : List (String × Value))
deriving Repr, Inhabited

/-- The entries of a table, in order; no two have the same key. -/
abbrev Table := List (String × Value)

namespace Table

def find? (table : Table) (key : String) : Option Value :=
  (List.find? (fun (entry : String × Value) => entry.1 == key) table).map (·.2)

def contains (table : Table) (key : String) : Bool := (find? table key).isSome

/-- Sets the entry of a key; one that is there already keeps its place. -/
def set (table : Table) (key : String) (value : Value) : Table :=
  if contains table key then
    table.map fun entry => if entry.1 == key then (key, value) else entry
  else table ++ [(key, value)]

/-- A table of entries in which a later one of the same key takes the place of an earlier one. -/
def ofEntries (entries : List (String × Value)) : Table :=
  entries.foldl (fun table entry => set table entry.1 entry.2) []

end Table

namespace Value

/-- The name of a value's kind where a table was due. -/
def kind : Value → String
  | null => "NoneType"
  | bool _ => "bool"
  | int _ => "int"
  | float _ => "float"
  | text _ => "str"
  | date _ => "datetime.date"
  | time _ => "datetime.time"
  | dateTime _ => "datetime.datetime"
  | list _ => "list"
  | table _ => "dict"

/-- Whether a value counts as true where a truth value is wanted: nothing, zero and what is empty
do not. -/
def isTruthy : Value → Bool
  | null => false
  | bool value => value
  | int value => value != 0
  | float (.finite _ mantissa _) => mantissa != 0
  | float _ => true
  | text value => value != ""
  | list members => !members.isEmpty
  | table entries => !entries.isEmpty
  | _ => true

/-! ## Equality of meaning -/

/-- The number that a truth value or an integer counts as. -/
def wholeNumber? : Value → Option Int
  | bool value => some (if value then 1 else 0)
  | int value => some value
  | float value => value.toInt?
  | _ => none

/-- Whether two numbers of any kinds are equal; none if one of them is no number. -/
def sameNumber? (left right : Value) : Option Bool :=
  match left, right with
  | float first, float second => some (first.sameValue second)
  | _, _ =>
      match left, right with
      | bool _, bool _ | bool _, int _ | int _, bool _ | int _, int _
      | float _, bool _ | float _, int _ | bool _, float _ | int _, float _ =>
          some (left.wholeNumber?.isSome && left.wholeNumber? == right.wholeNumber?)
      | _, _ => none

mutual

/-- Whether two values mean the same: numbers by amount, lists member by member, and tables by
what they hold under each key. -/
def means : Value → Value → Bool
  | list first, right => match right with
      | list second => meansAll first second
      | _ => false
  | table first, right => match right with
      | table second => first.length == second.length && meansEntries first second
      | _ => false
  | null, right => match right with
      | null => true
      | _ => false
  | text first, right => match right with
      | text second => first == second
      | _ => false
  | date first, right => match right with
      | date second => first == second
      | _ => false
  | time first, right => match right with
      | time second => first == second
      | _ => false
  | dateTime first, right => match right with
      | dateTime second => first.sameMoment second
      | _ => false
  | bool value, right => (sameNumber? (bool value) right).getD false
  | int value, right => (sameNumber? (int value) right).getD false
  | float value, right => (sameNumber? (float value) right).getD false

def meansAll : List Value → List Value → Bool
  | [], [] => true
  | first :: later, second :: others => first.means second && meansAll later others
  | _, _ => false

/-- Whether each entry has its like in `others`. -/
def meansEntries : List (String × Value) → List (String × Value) → Bool
  | [], _ => true
  | (key, value) :: later, others =>
      (match Table.find? others key with
      | some other => value.means other
      | none => false) && meansEntries later others

end

example : (list [bool true, int 0]).means (list [int 1, bool false]) = true := by decide +kernel

end Value

end Stencil
