import Mathlib.Data.List.Induction
import Stencil.Proofs.Json.Array
import Stencil.Proofs.Settings.Merging
import Stencil.Settings.Environment

/-!
What environment variables come to. A variable sets the value at the chain of names that it spells
and leaves alone what is neither above nor below, so the last one to set anything there decides.
The value of a variable is never a table.
-/

namespace Stencil.Settings

/-! ## A value set at a chain of names -/

theorem setAt_singleton (value : Value) (table : Table) (name : String) :
    setAt value table [name] = Table.set table name value :=
  rfl

theorem setAt_cons {later : List String} (further : later ≠ []) (value : Value) (table : Table)
    (name : String) :
    setAt value table (name :: later) =
      Table.set table name (.table (setAt value (tableOf (Table.find? table name)) later)) := by
  cases later with
  | nil => exact absurd rfl further
  | cons next later =>
      rw [setAt]
      · cases Table.find? table name with
        | none => rfl
        | some old => cases old <;> rfl
      · intro equal
        cases equal

theorem valueAt?_setAt_self {path : List String} (named : path ≠ []) (value : Value)
    (table : Table) : valueAt? (.table (setAt value table path)) path = some value := by
  induction path generalizing table with
  | nil => exact absurd rfl named
  | cons name later induction =>
      by_cases last : later = []
      · subst later
        rw [setAt_singleton, valueAt?_cons, Table.find?_set_self]
        rfl
      · rw [setAt_cons last, valueAt?_cons, Table.find?_set_self]
        exact induction last _

/-- A value set at one chain of names changes nothing at another that is neither above nor below. -/
theorem valueAt?_setAt_of_apart {path other : List String} (notAbove : ¬ path <+: other)
    (notBelow : ¬ other <+: path) (value : Value) (table : Table) :
    valueAt? (.table (setAt value table path)) other = valueAt? (.table table) other := by
  induction path generalizing table other with
  | nil => exact absurd List.nil_prefix notAbove
  | cons name later induction =>
      cases other with
      | nil => exact absurd List.nil_prefix notBelow
      | cons head rest =>
          rw [List.cons_prefix_cons, not_and] at notAbove notBelow
          by_cases last : later = []
          · subst later
            have different : head ≠ name := fun equal => notAbove equal.symm List.nil_prefix
            rw [setAt_singleton, valueAt?_cons, valueAt?_cons,
              Table.find?_set_of_ne different]
          · rw [setAt_cons last, valueAt?_cons, valueAt?_cons]
            by_cases equal : head = name
            · subst head
              have below : rest ≠ [] := by
                intro empty
                exact notBelow rfl (empty ▸ List.nil_prefix)
              rw [Table.find?_set_self, Option.bind_some,
                induction (notAbove rfl) (notBelow rfl), valueAt?_tableOf _ below]
            · rw [Table.find?_set_of_ne equal]

theorem not_touches_empty {path : List String} (named : path ≠ []) : ¬ Touches [] path := by
  cases path with
  | nil => exact absurd rfl named
  | cons name later =>
      intro touches
      rcases touches_cons_iff.mp touches with ⟨_, found, _⟩
      cases found

theorem exists_table_of_touches {value? : Option Value} {path : List String} (named : path ≠ [])
    (touches : Touches (tableOf value?) path) :
    ∃ inner, value? = some (.table inner) ∧ Touches inner path := by
  cases value? with
  | none => exact absurd touches (not_touches_empty named)
  | some value =>
      cases value with
      | table inner => exact ⟨inner, rfl, touches⟩
      | _ => exact absurd touches (not_touches_empty named)

/-- Nor does it touch another that was not touched before. -/
theorem not_touches_setAt {path other : List String} (notAbove : ¬ path <+: other)
    (notBelow : ¬ other <+: path) (value : Value) {table : Table} (free : ¬ Touches table other) :
    ¬ Touches (setAt value table path) other := by
  induction path generalizing table other with
  | nil => exact absurd List.nil_prefix notAbove
  | cons name later induction =>
      cases other with
      | nil => exact absurd List.nil_prefix notBelow
      | cons head rest =>
          rw [List.cons_prefix_cons, not_and] at notAbove notBelow
          intro touches
          apply free
          apply touches_cons_iff.mpr
          rcases touches_cons_iff.mp touches with ⟨given, found, inside⟩
          by_cases last : later = []
          · subst later
            have different : head ≠ name := fun equal => notAbove equal.symm List.nil_prefix
            rw [setAt_singleton, Table.find?_set_of_ne different] at found
            exact ⟨given, found, inside⟩
          · rw [setAt_cons last] at found
            by_cases equal : head = name
            · subst head
              have below : rest ≠ [] := by
                intro empty
                exact notBelow rfl (empty ▸ List.nil_prefix)
              rw [Table.find?_set_self] at found
              cases found
              by_contra none
              apply induction (notAbove rfl) (notBelow rfl) ?_ (inside _ rfl)
              intro touched
              rcases exists_table_of_touches below touched with ⟨inner, found, touched⟩
              apply none
              refine ⟨.table inner, found, ?_⟩
              intro same equal
              cases equal
              exact touched
            · rw [Table.find?_set_of_ne equal] at found
              exact ⟨given, found, inside⟩

theorem isKeyed_tableOf {table : Table} (keyed : IsKeyed table) (name : String) :
    IsKeyed (tableOf (Table.find? table name)) := by
  cases found : Table.find? table name with
  | none => exact isKeyed_nil
  | some value =>
      cases value with
      | table inner => exact (isKeyed_iff.mp keyed).2 name inner found
      | _ => exact isKeyed_nil

theorem IsKeyed.setAt {value : Value} (leaf : value.isTable = false) {table : Table}
    (keyed : IsKeyed table) (path : List String) : IsKeyed (setAt value table path) := by
  have absurdTable (inner : Table) (equal : value = .table inner) : IsKeyed inner := by
    subst equal
    cases leaf
  induction path generalizing table with
  | nil => exact keyed
  | cons name later induction =>
      by_cases last : later = []
      · subst later
        rw [setAt_singleton]
        exact keyed.set name absurdTable
      · rw [setAt_cons last]
        apply keyed.set name
        intro inner equal
        cases equal
        exact induction (isKeyed_tableOf keyed name)

/-- Merging a single value is setting it. -/
theorem merge_setAt_nil {value : Value} (leaf : value.isTable = false) {path : List String}
    (named : path ≠ []) (base : Table) :
    merge base (setAt value [] path) = setAt value base path := by
  induction path generalizing base with
  | nil => exact absurd rfl named
  | cons name later induction =>
      by_cases last : later = []
      · subst later
        rw [setAt_singleton, setAt_singleton]
        exact congrArg (Table.set base name) (mergeValue_of_leaf leaf _)
      · have inside : IsKeyed (setAt value [] later) := isKeyed_nil.setAt leaf later
        have merged := mergeValue_table (Table.find? base name) (isKeyed_iff.mp inside).1
        rw [induction last] at merged
        rw [setAt_cons last, setAt_cons last]
        exact congrArg (Table.set base name) merged

/-! ## The value of a variable -/

theorem parseText_of_plain {text : String} (noTruth : truthWord? text = none)
    (noInteger : Numeral.integer? text = none) (noArray : array? text = none) :
    parseText text = .text text := by
  rw [parseText, noTruth, noInteger, noArray]

theorem exists_list_of_array? {text : String} {value : Value} (array : array? text = some value) :
    ∃ members, value = .list members := by
  rw [array?] at array
  split at array
  · rename_i brackets
    rw [Bool.and_eq_true, String.startsWith_string_iff] at brackets
    rcases brackets.1 with ⟨rest, spelled⟩
    exact Json.exists_list_of_read? spelled.symm array
  · cases array

theorem isTable_parseText (text : String) : (parseText text).isTable = false := by
  rw [parseText]
  split
  · rfl
  · rfl
  · rename_i value _ _ array
    rcases exists_list_of_array? array with ⟨members, rfl⟩
    rfl
  · rfl

/-! ## Variables one after the other -/

/-- The chain of names that a variable sets, if it sets one. -/
def variablePath? (leading name : String) : Option (List String) :=
  (keyName? leading name).map fun key => keyParts (variableKey key)

theorem keyParts_ne_nil (key : String) : keyParts key ≠ [] := by
  rw [keyParts, splitText, ne_eq, List.map_eq_nil_iff]
  exact splitAt_ne_nil '.' key.toList

theorem ne_nil_of_variablePath? {leading name : String} {path : List String}
    (sets : variablePath? leading name = some path) : path ≠ [] := by
  rcases Option.map_eq_some_iff.mp sets with ⟨key, _, rfl⟩
  exact keyParts_ne_nil _

theorem fromEnvironment_concat (environment : Environment) (leading name text : String) :
    fromEnvironment (environment ++ [(name, text)]) leading =
      (variablePath? leading name).elim (fromEnvironment environment leading)
        (setAt (parseText text) (fromEnvironment environment leading)) := by
  rw [fromEnvironment, List.foldl_concat, variablePath?, ← fromEnvironment]
  cases found : keyName? leading name with
  | none => simp only [found, Option.map_none, Option.elim_none]
  | some key => simp only [found, Option.map_some, Option.elim_some, setNested]

theorem isKeyed_fromEnvironment (environment : Environment) (leading : String) :
    IsKeyed (fromEnvironment environment leading) := by
  induction environment using List.reverseRecOn with
  | nil => exact isKeyed_nil
  | append_singleton environment last induction =>
      rcases last with ⟨name, text⟩
      rw [fromEnvironment_concat]
      cases variablePath? leading name with
      | none => exact induction
      | some path => exact induction.setAt (isTable_parseText text) path

/-- The text is that of a variable which sets the value at the chain of names, and no later
variable sets one there, above or below. -/
def IsSetTo (environment : Environment) (leading : String) (path : List String) (text : String) :
    Prop :=
  ∃ earlier name later, environment = earlier ++ (name, text) :: later ∧
    variablePath? leading name = some path ∧
    ∀ other ∈ later, ∀ otherPath, variablePath? leading other.1 = some otherPath →
      ¬ otherPath <+: path ∧ ¬ path <+: otherPath

theorem valueAt?_fromEnvironment {environment : Environment} {leading text : String}
    {path : List String} (given : IsSetTo environment leading path text) :
    valueAt? (.table (fromEnvironment environment leading)) path = some (parseText text) := by
  rcases given with ⟨earlier, name, later, rfl, sets, apart⟩
  rw [List.append_cons]
  induction later using List.reverseRecOn with
  | nil =>
      rw [List.append_nil, fromEnvironment_concat, sets]
      exact valueAt?_setAt_self (ne_nil_of_variablePath? sets) _ _
  | append_singleton later last induction =>
      rcases last with ⟨other, otherText⟩
      have before := induction fun earlierOther member =>
        apart earlierOther (List.mem_append_left _ member)
      rw [← List.append_assoc, fromEnvironment_concat]
      cases otherSets : variablePath? leading other with
      | none => exact before
      | some otherPath =>
          rcases apart (other, otherText) (by simp) otherPath otherSets with ⟨above, below⟩
          rw [Option.elim_some, valueAt?_setAt_of_apart above below, before]

end Stencil.Settings
