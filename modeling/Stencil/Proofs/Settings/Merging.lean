import Mathlib.Data.List.Nodup
import Stencil.Settings.Merge

/-!
What merged settings hold at a chain of names. A table touches the chain if it holds a value there,
or one that is no table on the way. Merged over another one it decides there alone if it touches
the chain, and leaves what was there if it does not.
-/

namespace Stencil

def Value.isTable : Value → Bool
  | table _ => true
  | _ => false

namespace Table

variable {table : Table} {key name : String} {value : Value}

/-! ## Entries -/

def keys (table : Table) : List String := table.map (·.1)

theorem find?_cons (key : String) (value : Value) (table : Table) (name : String) :
    find? ((key, value) :: table) name = if key = name then some value else find? table name := by
  by_cases equal : key = name <;> simp [find?, equal]

theorem find?_append (table later : Table) (name : String) :
    find? (table ++ later) name = (find? table name).or (find? later name) := by
  simp only [find?, List.find?_append]
  cases List.find? (fun entry => entry.1 == name) table <;> rfl

theorem find?_eq_none_iff : find? table key = none ↔ key ∉ keys table := by
  induction table with
  | nil => simp [find?, keys]
  | cons entry table induction =>
      rcases entry with ⟨first, value⟩
      rw [keys, List.map_cons, List.mem_cons, not_or, find?_cons]
      by_cases equal : first = key
      · simp [equal]
      · rw [if_neg equal, induction]
        exact (and_iff_right (Ne.symm equal)).symm

theorem contains_iff : contains table key = true ↔ key ∈ keys table := by
  rw [contains, ← Option.ne_none_iff_isSome, ne_eq, find?_eq_none_iff, not_not]

theorem find?_of_mem (distinct : (keys table).Nodup) (member : (key, value) ∈ table) :
    find? table key = some value := by
  induction table with
  | nil => cases member
  | cons entry table induction =>
      rcases entry with ⟨first, old⟩
      rw [keys, List.map_cons, List.nodup_cons] at distinct
      rw [find?_cons]
      rcases List.mem_cons.mp member with equal | later
      · cases equal
        exact if_pos rfl
      · have different : first ≠ key := by
          intro equal
          subst first
          exact distinct.1 (List.mem_map.mpr ⟨_, later, rfl⟩)
        rw [if_neg different]
        exact induction distinct.2 later

theorem mem_of_find? (found : find? table key = some value) : (key, value) ∈ table := by
  rcases Option.map_eq_some_iff.mp found with ⟨⟨first, other⟩, located, rfl⟩
  have same := List.find?_some located
  rw [beq_iff_eq] at same
  exact same ▸ List.mem_of_find?_eq_some located

/-! ## Changes -/

theorem keys_set (table : Table) (key : String) (value : Value) :
    keys (set table key value) =
      if key ∈ keys table then keys table else keys table ++ [key] := by
  rw [set]
  by_cases present : key ∈ keys table
  · rw [if_pos (contains_iff.mpr present), if_pos present, keys, keys, List.map_map]
    apply List.map_congr_left
    intro entry _
    by_cases equal : entry.1 = key <;> simp [equal]
  · rw [if_neg (contains_iff.not.mpr present), if_neg present]
    simp [keys]

theorem nodup_keys_set (distinct : (keys table).Nodup) (key : String) (value : Value) :
    (keys (set table key value)).Nodup := by
  rw [keys_set]
  split
  · exact distinct
  · rename_i absent
    exact List.Nodup.append distinct (List.nodup_singleton key) (by simpa using absent)

private theorem find?_replace (table : Table) (key : String) (value : Value) (name : String) :
    find? (table.map fun entry => if entry.1 == key then (key, value) else entry) name =
      if name = key then (find? table key).map fun _ => value else find? table name := by
  induction table with
  | nil => split <;> rfl
  | cons entry table induction =>
      rcases entry with ⟨first, old⟩
      rw [List.map_cons]
      by_cases replaced : first = key
      · rw [if_pos (beq_iff_eq.mpr replaced), find?_cons, find?_cons, find?_cons, induction]
        by_cases same : name = key
        · simp [same, replaced]
        · simp [same, Ne.symm same, replaced]
      · have kept : ((first, old).1 == key) = false := beq_false_of_ne replaced
        rw [kept, if_neg Bool.false_ne_true, find?_cons, find?_cons, find?_cons, induction,
          if_neg replaced]
        by_cases same : name = key
        · have other : first ≠ name := fun equal => replaced (equal.trans same)
          rw [if_neg other, if_pos same, if_pos same]
        · simp [same]

theorem find?_set (table : Table) (key : String) (value : Value) (name : String) :
    find? (set table key value) name = if name = key then some value else find? table name := by
  rw [set]
  split
  · rename_i present
    rcases Option.isSome_iff_exists.mp present with ⟨old, found⟩
    rw [find?_replace, found]
    rfl
  · rename_i absent
    rw [contains_iff, ← find?_eq_none_iff] at absent
    rw [find?_append, find?_cons]
    by_cases same : name = key
    · subst name
      rw [absent, if_pos rfl, if_pos rfl]
      rfl
    · rw [if_neg (Ne.symm same), if_neg same]
      cases find? table name <;> rfl

theorem find?_set_self (table : Table) (key : String) (value : Value) :
    find? (set table key value) key = some value := by
  rw [find?_set, if_pos rfl]

theorem find?_set_of_ne (different : name ≠ key) (table : Table) (value : Value) :
    find? (set table key value) name = find? table name := by
  rw [find?_set, if_neg different]

/-- Setting an entry to what it is already changes nothing. -/
theorem set_of_find? (distinct : (keys table).Nodup) (found : find? table key = some value) :
    set table key value = table := by
  have present : contains table key = true := by rw [contains, found]; rfl
  rw [set, if_pos present]
  nth_rewrite 2 [← List.map_id table]
  apply List.map_congr_left
  intro entry member
  by_cases equal : entry.1 = key
  · have same := find?_of_mem distinct (show (entry.1, entry.2) ∈ table from member)
    rw [equal, found] at same
    rw [if_pos (beq_iff_eq.mpr equal), Option.some.inj same, ← equal]
    rfl
  · rw [if_neg (by simpa using equal)]
    rfl

end Table

namespace Settings

/-! ## Chains of names -/

theorem valueAt?_cons (table : Table) (name : String) (later : List String) :
    valueAt? (.table table) (name :: later) = (Table.find? table name).bind (valueAt? · later) :=
  rfl

/-- No table below or at the top holds two entries of one key. -/
def IsKeyed (table : Table) : Prop :=
  ∀ path inner, valueAt? (.table table) path = some (.table inner) → (Table.keys inner).Nodup

theorem isKeyed_iff {table : Table} :
    IsKeyed table ↔ (Table.keys table).Nodup ∧
      ∀ name inner, Table.find? table name = some (.table inner) → IsKeyed inner := by
  constructor
  · intro keyed
    refine ⟨keyed [] table rfl, ?_⟩
    intro name inner found path lower reached
    apply keyed (name :: path)
    rw [valueAt?_cons, found]
    exact reached
  · intro ⟨distinct, below⟩ path inner reached
    cases path with
    | nil =>
        cases reached
        exact distinct
    | cons name later =>
        rw [valueAt?_cons, Option.bind_eq_some_iff] at reached
        rcases reached with ⟨value, found, reached⟩
        cases value with
        | table entries => exact below name entries found later inner reached
        | _ => cases later <;> cases reached

theorem isKeyed_nil : IsKeyed [] :=
  isKeyed_iff.mpr ⟨List.nodup_nil, fun _ _ found => nomatch found⟩

theorem isKeyed_of_entries {table : Table} (distinct : (Table.keys table).Nodup)
    (inside : ∀ name inner, (name, .table inner) ∈ table → IsKeyed inner) : IsKeyed table :=
  isKeyed_iff.mpr ⟨distinct, fun name inner found => inside name inner (Table.mem_of_find? found)⟩

theorem IsKeyed.set {table : Table} (keyed : IsKeyed table) (key : String) {value : Value}
    (below : ∀ inner, value = .table inner → IsKeyed inner) :
    IsKeyed (Table.set table key value) := by
  rcases isKeyed_iff.mp keyed with ⟨distinct, inside⟩
  refine isKeyed_iff.mpr ⟨Table.nodup_keys_set distinct key value, ?_⟩
  intro name inner found
  by_cases equal : name = key
  · subst name
    rw [Table.find?_set_self] at found
    exact below inner (Option.some.inj found)
  · rw [Table.find?_set_of_ne equal] at found
    exact inside name inner found

/-- A value at the chain, or a value that is no table on the way there. -/
def Touches (source : Table) (path : List String) : Prop :=
  ∃ above below value, path = above ++ below ∧ valueAt? (.table source) above = some value ∧
    (below = [] ∨ value.isTable = false)

theorem touches_of_valueAt? {source : Table} {path : List String} {value : Value}
    (held : valueAt? (.table source) path = some value) : Touches source path :=
  ⟨path, [], value, (List.append_nil path).symm, held, .inl rfl⟩

theorem touches_nil (source : Table) : Touches source [] := touches_of_valueAt? rfl

theorem touches_cons_iff {source : Table} {name : String} {later : List String} :
    Touches source (name :: later) ↔ ∃ value, Table.find? source name = some value ∧
      ∀ inner, value = .table inner → Touches inner later := by
  constructor
  · intro ⟨above, below, value, split, held, ends⟩
    cases above with
    | nil =>
        cases held
        rcases ends with rfl | leaf
        · cases split
        · cases leaf
    | cons first above =>
        cases split
        rw [valueAt?_cons, Option.bind_eq_some_iff] at held
        rcases held with ⟨first, found, held⟩
        refine ⟨first, found, ?_⟩
        intro inner equal
        subst first
        exact ⟨above, below, value, rfl, held, ends⟩
  · intro ⟨value, found, inside⟩
    cases leaf : value.isTable with
    | false =>
        refine ⟨[name], later, value, rfl, ?_, .inr leaf⟩
        rw [valueAt?_cons, found]
        rfl
    | true =>
        cases value with
        | table inner =>
            rcases inside inner rfl with ⟨above, below, value, rfl, held, ends⟩
            refine ⟨name :: above, below, value, rfl, ?_, ends⟩
            rw [valueAt?_cons, found]
            exact held
        | _ => cases leaf

/-! ## Two tables -/

theorem find?_mergeEntries {entries : Table} (distinct : (Table.keys entries).Nodup)
    (base : Table) (name : String) :
    Table.find? (mergeEntries base entries) name =
      (Table.find? entries name).elim (Table.find? base name) fun value =>
        some (mergeValue (Table.find? base name) value) := by
  induction entries generalizing base with
  | nil => rfl
  | cons entry entries induction =>
      rcases entry with ⟨key, value⟩
      rw [Table.keys, List.map_cons, List.nodup_cons] at distinct
      rw [mergeEntries, induction distinct.2, Table.find?_cons]
      by_cases equal : key = name
      · subst name
        have absent : Table.find? entries key = none := Table.find?_eq_none_iff.mpr distinct.1
        rw [absent, if_pos rfl, Table.find?_set_self]
        rfl
      · rw [if_neg equal, Table.find?_set_of_ne (Ne.symm equal)]

theorem mergeValue_of_leaf {value : Value} (leaf : value.isTable = false) (base : Option Value) :
    mergeValue base value = value := by
  cases value with
  | table entries => cases leaf
  | _ => rfl

theorem mergeValue_none (value : Value) : mergeValue none value = value := by
  cases value <;> rfl

theorem mergeEntries_of_disjoint {base entries : Table} (distinct : (Table.keys entries).Nodup)
    (disjoint : ∀ key ∈ Table.keys entries, key ∉ Table.keys base) :
    mergeEntries base entries = base ++ entries := by
  induction entries generalizing base with
  | nil => rw [mergeEntries, List.append_nil]
  | cons entry entries induction =>
      rcases entry with ⟨key, value⟩
      rw [Table.keys, List.map_cons, List.nodup_cons] at distinct
      rw [Table.keys, List.map_cons, List.forall_mem_cons] at disjoint
      have absent := disjoint.1
      have set : Table.set base key value = base ++ [(key, value)] := by
        rw [Table.set, if_neg (Table.contains_iff.not.mpr absent)]
      rw [mergeEntries, Table.find?_eq_none_iff.mpr absent, mergeValue_none, set,
        induction distinct.2, List.append_assoc, List.singleton_append]
      intro other member
      rw [Table.keys, List.map_append, List.mem_append, not_or]
      refine ⟨disjoint.2 other member, ?_⟩
      intro equal
      cases List.mem_singleton.mp equal
      exact distinct.1 member

theorem merge_nil (base : Table) : merge base [] = base := by
  rw [merge, mergeEntries]

theorem nil_merge {override : Table} (distinct : (Table.keys override).Nodup) :
    merge [] override = override :=
  mergeEntries_of_disjoint distinct fun _ _ => List.not_mem_nil

theorem mergeEntries_of_fixed {base entries : Table} (distinct : (Table.keys base).Nodup)
    (fixed : ∀ key value, (key, value) ∈ entries →
      Table.find? base key = some value ∧ mergeValue (some value) value = value) :
    mergeEntries base entries = base := by
  induction entries with
  | nil => rw [mergeEntries]
  | cons entry entries induction =>
      rcases entry with ⟨key, value⟩
      rcases fixed key value List.mem_cons_self with ⟨found, same⟩
      rw [mergeEntries, found, same, Table.set_of_find? distinct found]
      exact induction fun key value member => fixed key value (List.mem_cons_of_mem _ member)

theorem merge_self (table : Table) (keyed : IsKeyed table) : merge table table = table := by
  rcases isKeyed_iff.mp keyed with ⟨distinct, inside⟩
  apply mergeEntries_of_fixed distinct
  intro key value member
  have found := Table.find?_of_mem distinct member
  refine ⟨found, ?_⟩
  cases value with
  | table inner => exact congrArg Value.table (merge_self inner (inside key inner found))
  | _ => rfl
termination_by sizeOf table
decreasing_by
  have smaller := List.sizeOf_lt_of_mem member
  simp only [Prod.mk.sizeOf_spec, Value.table.sizeOf_spec] at smaller
  omega

/-- The table that a value is; what is no table counts as an empty one. -/
def tableOf : Option Value → Table
  | some (.table entries) => entries
  | _ => []

theorem mergeValue_table (base : Option Value) {entries : Table}
    (distinct : (Table.keys entries).Nodup) :
    mergeValue base (.table entries) = .table (merge (tableOf base) entries) := by
  have fresh : merge [] entries = entries := nil_merge distinct
  cases base with
  | none => rw [mergeValue_none, show tableOf none = [] from rfl, fresh]
  | some value =>
      cases value with
      | table old => rfl
      | _ => exact congrArg Value.table fresh.symm

theorem valueAt?_tableOf (value? : Option Value) {path : List String} (below : path ≠ []) :
    valueAt? (.table (tableOf value?)) path = value?.bind (valueAt? · path) := by
  cases path with
  | nil => exact absurd rfl below
  | cons name later =>
      cases value? with
      | none => rfl
      | some value => cases value <;> rfl

section Merge

variable {override : Table} {path : List String}

/-- A table that touches a chain decides there alone. -/
theorem valueAt?_merge_of_touches (keyed : IsKeyed override) (touches : Touches override path)
    {value : Value} (leaf : value.isTable = false) (base : Table) :
    valueAt? (.table (merge base override)) path = some value ↔
      valueAt? (.table override) path = some value := by
  induction path generalizing base override with
  | nil =>
      constructor
      · intro held
        cases held
        cases leaf
      · intro held
        cases held
        cases leaf
  | cons name later induction =>
      rcases isKeyed_iff.mp keyed with ⟨distinct, inside⟩
      rcases touches_cons_iff.mp touches with ⟨given, found, below⟩
      rw [valueAt?_cons, valueAt?_cons, merge, find?_mergeEntries distinct, found]
      cases isLeaf : given.isTable with
      | false => rw [Option.elim_some, mergeValue_of_leaf isLeaf]
      | true =>
          cases given with
          | table inner =>
              have innerKeyed := inside name inner found
              rw [Option.elim_some, mergeValue_table _ (isKeyed_iff.mp innerKeyed).1]
              exact induction innerKeyed (below inner rfl) _
          | _ => cases isLeaf

/-- A table that does not touch a chain leaves what was there. -/
theorem valueAt?_merge_of_not_touches (keyed : IsKeyed override)
    (free : ¬ Touches override path) (base : Table) :
    valueAt? (.table (merge base override)) path = valueAt? (.table base) path := by
  induction path generalizing base override with
  | nil => exact absurd (touches_nil override) free
  | cons name later induction =>
      rcases isKeyed_iff.mp keyed with ⟨distinct, inside⟩
      rw [valueAt?_cons, valueAt?_cons, merge, find?_mergeEntries distinct]
      cases found : Table.find? override name with
      | none => rfl
      | some given =>
          have below : ∃ inner, given = .table inner ∧ ¬ Touches inner later := by
            by_contra none
            apply free
            refine touches_cons_iff.mpr ⟨given, found, ?_⟩
            intro inner equal
            by_contra untouched
            exact none ⟨inner, equal, untouched⟩
          rcases below with ⟨inner, rfl, untouched⟩
          have innerKeyed := inside name inner found
          have further : later ≠ [] := by
            intro empty
            exact untouched (empty ▸ touches_nil inner)
          rw [Option.elim_some, mergeValue_table _ (isKeyed_iff.mp innerKeyed).1,
            Option.bind_some, induction innerKeyed untouched, valueAt?_tableOf _ further]

end Merge

end Settings
end Stencil
