import Stencil.Proofs.Settings.Difference
import Stencil.Proofs.Settings.Variables

/-!
Variables that do not meet. If no two variables set a value at one chain of names, or one above the
other, it does not matter in which order they come: each has its value at its chain, and nothing
else is set. Only the order in which a table keeps its entries is that of the variables.
-/

namespace Stencil.Settings

/-! ## Tables in another order -/

/-- The same values under the same keys, however the entries of each table are ordered. -/
inductive IsReordered : Value → Value → Prop where
  | leaf {value : Value} (leaf : value.isTable = false) : IsReordered value value
  | table {first second : Table} (keys : (Table.keys first).Perm (Table.keys second))
      (each : ∀ key value other, Table.find? first key = some value →
        Table.find? second key = some other → IsReordered value other) :
      IsReordered (.table first) (.table second)

/-- Two values are equal, or both are tables. -/
def IsSameOutside (value other : Value) : Prop :=
  value = other ∨ value.isTable = true ∧ other.isTable = true

theorem valueAt?_singleton (table : Table) (name : String) :
    valueAt? (.table table) [name] = Table.find? table name :=
  Option.bind_fun_some _

/-- What can be told apart at no chain of names is the same but for the order of entries. -/
theorem isReordered_of_rel {first second : Table} (firstKeyed : IsKeyed first)
    (secondKeyed : IsKeyed second)
    (same : ∀ path, Option.Rel IsSameOutside (valueAt? (.table first) path)
      (valueAt? (.table second) path)) :
    IsReordered (.table first) (.table second) := by
  have each (name : String) :
      Option.Rel IsSameOutside (Table.find? first name) (Table.find? second name) := by
    have here := same [name]
    rwa [valueAt?_singleton, valueAt?_singleton] at here
  rcases isKeyed_iff.mp firstKeyed with ⟨firstDistinct, firstInside⟩
  rcases isKeyed_iff.mp secondKeyed with ⟨secondDistinct, secondInside⟩
  constructor
  · apply (List.perm_ext_iff_of_nodup firstDistinct secondDistinct).mpr
    intro name
    rw [← not_iff_not, ← Table.find?_eq_none_iff, ← Table.find?_eq_none_iff]
    exact Table.eq_none_iff_of_rel (each name)
  · intro name value other found otherFound
    have here := each name
    rw [found, otherFound, Option.rel_some_some] at here
    cases leaf : value.isTable with
    | false =>
        rcases here with equal | ⟨isTable, _⟩
        · exact equal ▸ .leaf leaf
        · rw [leaf] at isTable
          cases isTable
    | true =>
        have otherTable : other.isTable = true := by
          rcases here with equal | ⟨_, otherTable⟩
          · rw [← equal, leaf]
          · exact otherTable
        cases value with
        | table entries =>
            cases other with
            | table others =>
                apply isReordered_of_rel (firstInside name entries found)
                  (secondInside name others otherFound)
                intro path
                have below := same (name :: path)
                rwa [valueAt?_cons, valueAt?_cons, found, otherFound, Option.bind_some,
                  Option.bind_some] at below
            | _ => cases otherTable
        | _ => cases leaf
termination_by sizeOf first
decreasing_by exact sizeOf_of_find? found

/-! ## Above and below a chain of names -/

theorem valueAt?_append (value : Value) (above below : List String) :
    valueAt? value (above ++ below) = (valueAt? value above).bind (valueAt? · below) := by
  induction above generalizing value with
  | nil => rfl
  | cons name above induction =>
      cases value with
      | table entries =>
          rw [List.cons_append, valueAt?_cons, valueAt?_cons, Option.bind_assoc]
          exact congrArg _ (funext induction)
      | _ => rfl

/-- Above a value there are tables. -/
theorem exists_table_above {value held : Value} {above path : List String}
    (reached : valueAt? value path = some held) (isAbove : above <+: path) (proper : above ≠ path) :
    ∃ inner, valueAt? value above = some (.table inner) := by
  rcases isAbove with ⟨below, rfl⟩
  rw [valueAt?_append, Option.bind_eq_some_iff] at reached
  rcases reached with ⟨between, found, further⟩
  cases below with
  | nil => exact absurd (List.append_nil above).symm proper
  | cons name below =>
      rcases eq_table_of_valueAt? further with ⟨inner, rfl⟩
      exact ⟨inner, found⟩

/-- After a value was set at a chain of names, what is held at another chain is that value, a table
on the way to it, or what was held before. -/
theorem cases_of_valueAt?_setAt {value held : Value} (leaf : value.isTable = false)
    {path other : List String} (named : path ≠ []) {table : Table}
    (reached : valueAt? (.table (setAt value table path)) other = some held) :
    (other = path ∧ held = value) ∨
      (other <+: path ∧ other ≠ path ∧ held.isTable = true) ∨
      valueAt? (.table table) other = some held := by
  have set := valueAt?_setAt_self named value table
  by_cases equal : other = path
  · rw [equal, set] at reached
    exact .inl ⟨equal, (Option.some.inj reached).symm⟩
  by_cases above : other <+: path
  · rcases exists_table_above set above equal with ⟨inner, found⟩
    rw [found] at reached
    exact .inr (.inl ⟨above, equal, Option.some.inj reached ▸ rfl⟩)
  by_cases below : path <+: other
  · rcases exists_table_above reached below (Ne.symm equal) with ⟨inner, found⟩
    rw [set] at found
    cases found
    cases leaf
  · rw [valueAt?_setAt_of_apart below above] at reached
    exact .inr (.inr reached)

/-! ## Variables -/

/-- A variable with the text sets the value at a chain of names. -/
def IsBound (environment : Environment) (leading : String) (path : List String) (text : String) :
    Prop :=
  ∃ name, (name, text) ∈ environment ∧ variablePath? leading name = some path

/-- The chains of names that two variables set, if both set one, are neither equal nor is one above
the other. -/
def IsApart (leading : String) (first second : String × String) : Prop :=
  ∀ path other, variablePath? leading first.1 = some path →
    variablePath? leading second.1 = some other → ¬ path <+: other ∧ ¬ other <+: path

instance (leading : String) (first second : String × String) :
    Decidable (IsApart leading first second) :=
  decidable_of_iff (∀ path ∈ variablePath? leading first.1,
      ∀ other ∈ variablePath? leading second.1, ¬ path <+: other ∧ ¬ other <+: path)
    ⟨fun apart path other sets otherSets => apart path sets other otherSets,
      fun apart path sets other otherSets => apart path other sets otherSets⟩

/-- No two variables of the environment meet. -/
def IsIndependent (environment : Environment) (leading : String) : Prop :=
  environment.Pairwise (IsApart leading)

instance (environment : Environment) (leading : String) :
    Decidable (IsIndependent environment leading) :=
  inferInstanceAs (Decidable (environment.Pairwise (IsApart leading)))

section Variables

variable {environment reordered : Environment} {leading : String} {path : List String}

theorem IsApart.symm {first second : String × String} (apart : IsApart leading first second) :
    IsApart leading second first :=
  fun path other sets otherSets => (apart other path otherSets sets).symm

theorem IsIndependent.perm (independent : IsIndependent environment leading)
    (perm : environment.Perm reordered) : IsIndependent reordered leading :=
  List.Pairwise.perm independent perm fun apart => apart.symm

theorem isBound_perm (perm : environment.Perm reordered) {text : String} :
    IsBound environment leading path text ↔ IsBound reordered leading path text :=
  exists_congr fun _ => and_congr_left fun _ => perm.mem_iff

/-- The value that a variable sets at a chain of names, or a table on the way to one. -/
inductive IsGiven (environment : Environment) (leading : String) (path : List String) :
    Value → Prop where
  | leaf {text : String} (bound : IsBound environment leading path text) :
      IsGiven environment leading path (parseText text)
  | top {inner : Table} (top : path = []) : IsGiven environment leading path (.table inner)
  | above {inner : Table} {other : List String} {text : String}
      (bound : IsBound environment leading other text) (above : path <+: other)
      (proper : path ≠ other) : IsGiven environment leading path (.table inner)

theorem IsBound.concat {text : String} (bound : IsBound environment leading path text)
    (last : String × String) : IsBound (environment ++ [last]) leading path text := by
  rcases bound with ⟨name, member, sets⟩
  exact ⟨name, List.mem_append_left _ member, sets⟩

theorem IsGiven.concat {held : Value} (given : IsGiven environment leading path held)
    (last : String × String) : IsGiven (environment ++ [last]) leading path held := by
  cases given with
  | leaf bound => exact .leaf (bound.concat last)
  | top top => exact .top top
  | above bound above proper => exact .above (bound.concat last) above proper

/-- Whatever the variables come to, one of them gave it. -/
theorem isGiven_of_valueAt? {held : Value}
    (reached : valueAt? (.table (fromEnvironment environment leading)) path = some held) :
    IsGiven environment leading path held := by
  induction environment using List.reverseRecOn with
  | nil =>
      by_cases top : path = []
      · subst path
        cases reached
        exact .top rfl
      · have nothing := valueAt?_nil top
        rw [show fromEnvironment [] leading = [] from rfl, nothing] at reached
        cases reached
  | append_singleton environment last induction =>
      rcases last with ⟨name, text⟩
      rw [fromEnvironment_concat] at reached
      cases sets : variablePath? leading name with
      | none =>
          rw [sets] at reached
          exact (induction reached).concat _
      | some set =>
          have bound : IsBound (environment ++ [(name, text)]) leading set text :=
            ⟨name, by simp, sets⟩
          rw [sets, Option.elim_some] at reached
          rcases cases_of_valueAt?_setAt (isTable_parseText text) (ne_nil_of_variablePath? sets)
            reached with ⟨rfl, rfl⟩ | ⟨above, proper, isTable⟩ | before
          · exact .leaf bound
          · cases held with
            | table inner => exact .above bound above proper
            | _ => cases isTable
          · exact (induction before).concat _

theorem valueAt?_of_isBound (independent : IsIndependent environment leading) {text : String}
    (bound : IsBound environment leading path text) :
    valueAt? (.table (fromEnvironment environment leading)) path = some (parseText text) := by
  rcases bound with ⟨name, member, sets⟩
  rcases List.append_of_mem member with ⟨earlier, later, rfl⟩
  rw [IsIndependent, List.pairwise_append, List.pairwise_cons] at independent
  apply valueAt?_fromEnvironment
  refine ⟨earlier, name, later, rfl, sets, ?_⟩
  intro other later otherPath otherSets
  exact (independent.2.1.1 other later path otherPath sets otherSets).symm

/-- Exactly the values of the variables are held beside tables. -/
theorem valueAt?_eq_leaf_iff (independent : IsIndependent environment leading) {value : Value}
    (leaf : value.isTable = false) :
    valueAt? (.table (fromEnvironment environment leading)) path = some value ↔
      ∃ text, IsBound environment leading path text ∧ value = parseText text := by
  constructor
  · intro reached
    cases isGiven_of_valueAt? reached with
    | leaf bound => exact ⟨_, bound, rfl⟩
    | top => cases leaf
    | above => cases leaf
  · rintro ⟨text, bound, rfl⟩
    exact valueAt?_of_isBound independent bound

/-- Tables are only on the way to a variable. -/
theorem valueAt?_eq_table_iff (independent : IsIndependent environment leading) :
    (∃ inner, valueAt? (.table (fromEnvironment environment leading)) path =
        some (.table inner)) ↔
      path = [] ∨
        ∃ other text, IsBound environment leading other text ∧ path <+: other ∧ path ≠ other := by
  constructor
  · rintro ⟨inner, reached⟩
    generalize equal : Value.table inner = held at reached
    cases isGiven_of_valueAt? reached with
    | leaf bound =>
        have leaf := isTable_parseText ‹String›
        rw [← equal] at leaf
        cases leaf
    | top top => exact .inl top
    | above bound above proper => exact .inr ⟨_, _, bound, above, proper⟩
  · rintro (rfl | ⟨other, text, bound, above, proper⟩)
    · exact ⟨_, rfl⟩
    · exact exists_table_above (valueAt?_of_isBound independent bound) above proper

/-- What one order of the variables gives, every other order gives too. -/
theorem exists_same_of_perm (independent : IsIndependent environment leading)
    (perm : environment.Perm reordered) {held : Value}
    (reached : valueAt? (.table (fromEnvironment environment leading)) path = some held) :
    ∃ other, valueAt? (.table (fromEnvironment reordered leading)) path = some other ∧
      IsSameOutside held other := by
  have stillIndependent := independent.perm perm
  cases leaf : held.isTable with
  | false =>
      rcases (valueAt?_eq_leaf_iff independent leaf).mp reached with ⟨text, bound, equal⟩
      refine ⟨held, (valueAt?_eq_leaf_iff stillIndependent leaf).mpr ?_, .inl rfl⟩
      exact ⟨text, (isBound_perm perm).mp bound, equal⟩
  | true =>
      cases held with
      | table inner =>
          have place := (valueAt?_eq_table_iff independent).mp ⟨inner, reached⟩
          simp only [isBound_perm perm] at place
          rcases (valueAt?_eq_table_iff stillIndependent).mpr place with ⟨other, found⟩
          exact ⟨_, found, .inr ⟨rfl, rfl⟩⟩
      | _ => cases leaf

theorem isReordered_of_perm (independent : IsIndependent environment leading)
    (perm : environment.Perm reordered) :
    IsReordered (.table (fromEnvironment environment leading))
      (.table (fromEnvironment reordered leading)) := by
  apply isReordered_of_rel (isKeyed_fromEnvironment _ _) (isKeyed_fromEnvironment _ _)
  intro path
  cases reached : valueAt? (.table (fromEnvironment environment leading)) path with
  | some held =>
      rcases exists_same_of_perm independent perm reached with ⟨other, found, same⟩
      rw [found]
      exact .some same
  | none =>
      cases found : valueAt? (.table (fromEnvironment reordered leading)) path with
      | none => exact .none
      | some other =>
          rcases exists_same_of_perm (independent.perm perm) perm.symm found with ⟨held, given, _⟩
          rw [reached] at given
          cases given

end Variables

/-- Variables that do not meet come to the same table in every order. It holds the value of each
variable at the chain of names that the variable sets, tables on the way there, and nothing else.
The reason is that setting a value at a key gives the key that value and changes nothing at a chain
of names that is neither above nor below, whatever the table holds. -/
theorem fromEnvironment_perm {environment reordered : Environment} {leading : String}
    (independent : IsIndependent environment leading) (perm : environment.Perm reordered) :
    IsReordered (.table (fromEnvironment environment leading))
        (.table (fromEnvironment reordered leading)) ∧
      (∀ path value, value.isTable = false →
        (valueAt? (.table (fromEnvironment environment leading)) path = some value ↔
          ∃ text, IsBound environment leading path text ∧ value = parseText text)) ∧
      (∀ path, (∃ inner, valueAt? (.table (fromEnvironment environment leading)) path =
          some (.table inner)) ↔
        path = [] ∨ ∃ other text, IsBound environment leading other text ∧ path <+: other ∧
          path ≠ other) ∧
      ∀ (table : Table) (key : String) (value : Value),
        getNested? (setNested table key value) key = some value ∧
          ∀ path, ¬ keyParts key <+: path → ¬ path <+: keyParts key →
            valueAt? (.table (setNested table key value)) path =
              valueAt? (.table table) path := by
  refine ⟨isReordered_of_perm independent perm, ?_, ?_, ?_⟩
  · intro path value leaf
    exact valueAt?_eq_leaf_iff independent leaf
  · intro path
    exact valueAt?_eq_table_iff independent
  · intro table key value
    refine ⟨valueAt?_setAt_self (keyParts_ne_nil key) value table, ?_⟩
    intro path notAbove notBelow
    exact valueAt?_setAt_of_apart notAbove notBelow value table

/-- Two options of one section, a key whose first name is empty, a switch, and a variable of another
program. -/
def scatteredVariables : Environment := [
  ("TYPEDHTML_COMPILE__MINIFY", "0"), ("HOME", "/home/user"), ("TYPEDHTML___LEVEL", "debug"),
  ("TYPEDHTML_DEBUG", "1"), ("TYPEDHTML_COMPILE__EXCLUDE", "[]")]

theorem fromEnvironment_perm_scattered :
    IsIndependent scatteredVariables variablePrefix ∧
      scatteredVariables.Perm scatteredVariables.reverse ∧
      IsReordered (.table (fromEnvironment scatteredVariables variablePrefix))
        (.table (fromEnvironment scatteredVariables.reverse variablePrefix)) ∧
      valueAt? (.table (fromEnvironment scatteredVariables variablePrefix)) ["", "level"] =
        some (.text "debug") ∧
      valueAt? (.table (fromEnvironment scatteredVariables variablePrefix)) ["debug"] = none := by
  have independent : IsIndependent scatteredVariables variablePrefix := by decide +kernel
  have perm := (List.reverse_perm scatteredVariables).symm
  rcases fromEnvironment_perm independent perm with ⟨same, leaves, _, _⟩
  refine ⟨independent, perm, same, ?_, ?_⟩
  · apply (leaves ["", "level"] (.text "debug") rfl).mpr
    refine ⟨"debug", ⟨"TYPEDHTML___LEVEL", by decide, by decide +kernel⟩, ?_⟩
    exact (parseText_of_plain (by decide +kernel) (by decide +kernel) (by decide +kernel)).symm
  · rw [← Option.isNone_iff_eq_none]
    decide +kernel

end Stencil.Settings
