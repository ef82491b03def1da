import Stencil.Text.Lines
import Stencil.Value.Basic

/-!
Merging of settings. Tables are merged key by key; everything else, lists too, is replaced as a
whole. What differs from the defaults is the opposite: the least that has to be merged over them.
-/

namespace Stencil.Settings

mutual

/-- The value of an entry after merging `override` over what was there. -/
def mergeValue (base : Option Value) (override : Value) : Value :=
  match override with
  | .table entries =>
      match base with
      | some (.table old) => .table (mergeEntries old entries)
      | _ => .table entries
  | value => value

/-- Merges entries one by one over a table. -/
def mergeEntries (base : Table) : List (String × Value) → Table
  | [] => base
  | (key, value) :: later =>
      mergeEntries (Table.set base key (mergeValue (Table.find? base key) value)) later

end

/-- The table `override` merged over the table `base`. -/
def merge (base override : Table) : Table := mergeEntries base override

mutual

/-- What is left of a value beside its default; nothing if they mean the same. -/
def differenceOf (default value : Value) : Option Value :=
  match value with
  | .table entries =>
      match default with
      | .table defaults =>
          let rest := differences defaults entries
          if rest.isEmpty then none else some (.table rest)
      | _ => some (.table entries)
  | value => if value.means default then none else some value

/-- The entries that differ from the defaults. -/
def differences (defaults : Table) : List (String × Value) → Table
  | [] => []
  | (key, value) :: later =>
      let rest := differences defaults later
      match Table.find? defaults key with
      | none => (key, value) :: rest
      | some default =>
          match differenceOf default value with
          | none => rest
          | some left => (key, left) :: rest

end

/-! ## Dotted keys -/

/-- The names between the dots of a key. -/
def keyParts (key : String) : List String := splitText '.' key

/-- Sets the value at a chain of names. Where a name on the way holds no table, it gets an empty
one. -/
def setAt (value : Value) (table : Table) : List String → Table
  | [] => table
  | [name] => Table.set table name value
  | name :: later =>
      let inner := match Table.find? table name with
        | some (.table inner) => inner
        | _ => []
      Table.set table name (.table (setAt value inner later))

def setNested (table : Table) (key : String) (value : Value) : Table :=
  setAt value table (keyParts key)

/-- The value at a chain of names. -/
def valueAt? (value : Value) : List String → Option Value
  | [] => some value
  | name :: later =>
      match value with
      | .table entries => (Table.find? entries name).bind (valueAt? · later)
      | _ => none

def getNested? (table : Table) (key : String) : Option Value :=
  valueAt? (.table table) (keyParts key)

end Stencil.Settings
