import Stencil.Proofs.Value.Meaning

/-!
The difference from the defaults undoes merging. Merged over the defaults again, it gives settings
that mean the same, and so does anything that means the same as the difference itself. It is no
larger than it must be: no value in it means the same as the default in its place.
-/

namespace Stencil.Settings

open Table (find?_cons find?_eq_none_iff mem_of_find? find?_of_mem eq_none_iff_of_rel exists_of_rel
  matches_iff)
open Value (IsRepresentable isRepresentable_table_iff means_table_iff isTable_eq_of_means)

/-- An entry of a table is smaller than the table. -/
theorem sizeOf_of_find? {table inner : Table} {name : String}
    (found : Table.find? table name = some (.table inner)) : sizeOf inner < sizeOf table := by
  have smaller := List.sizeOf_lt_of_mem (mem_of_find? found)
  simp only [Prod.mk.sizeOf_spec, Value.table.sizeOf_spec] at smaller
  omega

/-! ## Merged tables -/

theorem nodup_keys_merge {base : Table} (distinct : (Table.keys base).Nodup) (override : Table) :
    (Table.keys (merge base override)).Nodup := by
  rw [merge]
  induction override generalizing base with
  | nil => rwa [mergeEntries]
  | cons entry later induction =>
      rw [mergeEntries]
      exact induction (Table.nodup_keys_set distinct _ _)

/-- Two values are both tables, or one of them is none. -/
theorem leaf_or_tables (first second : Value) :
    (first.isTable = false ∨ second.isTable = false) ∨
      ∃ entries others, first = .table entries ∧ second = .table others := by
  cases first with
  | table entries =>
      cases second with
      | table others => exact .inr ⟨entries, others, rfl, rfl⟩
      | _ => exact .inl (.inr rfl)
  | _ => exact .inl (.inl rfl)

theorem mergeValue_of_leaf_or {base value : Value}
    (leaf : base.isTable = false ∨ value.isTable = false) :
    mergeValue (some base) value = value := by
  cases value with
  | table entries =>
      cases base with
      | table old => simp [Value.isTable] at leaf
      | _ => rfl
  | _ => rfl

theorem mergeValue_tables (old entries : Table) :
    mergeValue (some (.table old)) (.table entries) = .table (merge old entries) := rfl

theorem isRepresentable_merge {base override : Table}
    (baseRepresentable : IsRepresentable (.table base))
    (representable : IsRepresentable (.table override)) :
    IsRepresentable (.table (merge base override)) := by
  rcases isRepresentable_table_iff.mp baseRepresentable with ⟨baseDistinct, below⟩
  rcases isRepresentable_table_iff.mp representable with ⟨distinct, inside⟩
  refine isRepresentable_table_iff.mpr ⟨nodup_keys_merge baseDistinct override, ?_⟩
  intro name value found
  rw [merge, find?_mergeEntries distinct] at found
  cases given : Table.find? override name with
  | none =>
      rw [given] at found
      exact below name value found
  | some other =>
      have otherRepresentable := inside name other given
      rw [given, Option.elim_some, Option.some.injEq] at found
      subst found
      cases old : Table.find? base name with
      | none =>
          rw [mergeValue_none]
          exact otherRepresentable
      | some default =>
          rcases leaf_or_tables default other with leaf | ⟨defaults, entries, rfl, rfl⟩
          · rw [mergeValue_of_leaf_or leaf]
            exact otherRepresentable
          · exact isRepresentable_merge (below name _ old) otherRepresentable
termination_by sizeOf override
decreasing_by exact sizeOf_of_find? given

/-- Where the base holds nothing, a merged table holds what was merged over it. -/
theorem valueAt?_merge_of_unbound {base override : Table} (keyed : IsKeyed override)
    {path : List String} (unbound : valueAt? (.table base) path = none) :
    valueAt? (.table (merge base override)) path = valueAt? (.table override) path := by
  induction path generalizing base override with
  | nil => cases unbound
  | cons name later induction =>
      rcases isKeyed_iff.mp keyed with ⟨distinct, inside⟩
      rw [valueAt?_cons] at unbound
      rw [valueAt?_cons, valueAt?_cons, merge, find?_mergeEntries distinct]
      cases given : Table.find? override name with
      | none => exact unbound
      | some value =>
          rw [Option.elim_some, Option.bind_some, Option.bind_some]
          cases old : Table.find? base name with
          | none => rw [mergeValue_none]
          | some default =>
              rw [old, Option.bind_some] at unbound
              rcases leaf_or_tables default value with leaf | ⟨defaults, entries, rfl, rfl⟩
              · rw [mergeValue_of_leaf_or leaf]
              · exact induction (inside name entries given) unbound

/-! ## Entries of a difference -/

/-- What is left of an entry beside its default, if it has one. -/
def entryDifference (default? : Option Value) (value : Value) : Option Value :=
  match default? with
  | none => some value
  | some default => differenceOf default value

theorem differences_cons (defaults : Table) (key : String) (value : Value) (later : Table) :
    differences defaults ((key, value) :: later) =
      (entryDifference (Table.find? defaults key) value).elim (differences defaults later)
        fun left => (key, left) :: differences defaults later := by
  rw [differences]
  cases found : Table.find? defaults key with
  | none => rfl
  | some default =>
      rw [entryDifference]
      cases left : differenceOf default value <;> simp [left]

theorem keys_differences (defaults entries : Table) :
    (Table.keys (differences defaults entries)).Sublist (Table.keys entries) := by
  induction entries with
  | nil =>
      rw [differences]
  | cons entry later induction =>
      rcases entry with ⟨key, value⟩
      rw [differences_cons]
      cases entryDifference (Table.find? defaults key) value with
      | none => exact induction.cons key
      | some left => exact induction.cons_cons key

theorem find?_differences {entries : Table} (distinct : (Table.keys entries).Nodup)
    (defaults : Table) (name : String) :
    Table.find? (differences defaults entries) name =
      (Table.find? entries name).bind (entryDifference (Table.find? defaults name)) := by
  induction entries with
  | nil =>
      rw [differences]
      rfl
  | cons entry later induction =>
      rcases entry with ⟨key, value⟩
      rw [Table.keys, List.map_cons, List.nodup_cons] at distinct
      rw [differences_cons, find?_cons]
      by_cases equal : key = name
      · subst name
        rw [if_pos rfl, Option.bind_some]
        cases entryDifference (Table.find? defaults key) value with
        | none =>
            rw [Option.elim_none, find?_eq_none_iff]
            exact fun member => distinct.1 ((keys_differences defaults later).subset member)
        | some left => rw [Option.elim_some, find?_cons, if_pos rfl]
      · rw [if_neg equal, ← induction distinct.2]
        cases entryDifference (Table.find? defaults key) value with
        | none => rfl
        | some left => rw [Option.elim_some, find?_cons, if_neg equal]

theorem differenceOf_of_leaf {default value : Value}
    (leaf : default.isTable = false ∨ value.isTable = false) :
    differenceOf default value = if value.means default then none else some value := by
  cases value with
  | table entries =>
      cases default with
      | table defaults => simp [Value.isTable] at leaf
      | _ => simp [differenceOf, Value.means]
  | _ => simp only [differenceOf]

theorem differenceOf_table (defaults entries : Table) :
    differenceOf (.table defaults) (.table entries) =
      if differences defaults entries = [] then none
      else some (.table (differences defaults entries)) := by
  rw [differenceOf]
  cases differences defaults entries <;> rfl

theorem isRepresentable_differences (defaults : Table) {settings : Table}
    (representable : IsRepresentable (.table settings)) :
    IsRepresentable (.table (differences defaults settings)) := by
  rcases isRepresentable_table_iff.mp representable with ⟨distinct, inside⟩
  refine isRepresentable_table_iff.mpr ⟨(keys_differences defaults settings).nodup distinct, ?_⟩
  intro name left found
  rw [find?_differences distinct, Option.bind_eq_some_iff] at found
  rcases found with ⟨value, given, kept⟩
  have valueRepresentable := inside name value given
  cases bound : Table.find? defaults name with
  | none =>
      rw [bound] at kept
      exact Option.some.inj kept ▸ valueRepresentable
  | some default =>
      rw [bound, entryDifference] at kept
      rcases leaf_or_tables default value with leaf | ⟨old, entries, rfl, rfl⟩
      · rw [differenceOf_of_leaf leaf] at kept
        split at kept
        · cases kept
        · exact Option.some.inj kept ▸ valueRepresentable
      · rw [differenceOf_table] at kept
        split at kept
        · cases kept
        · exact Option.some.inj kept ▸ isRepresentable_differences old valueRepresentable
termination_by sizeOf settings
decreasing_by exact sizeOf_of_find? given

/-! ## Merging a difference -/

/-- A merged table means the same as another one if the two agree under every key. -/
theorem means_merge {base settings rest : Table} (baseDistinct : (Table.keys base).Nodup)
    (distinct : (Table.keys settings).Nodup) (restDistinct : (Table.keys rest).Nodup)
    (each : ∀ name, Value.Agree (Table.find? settings name)
      ((Table.find? rest name).elim (Table.find? base name) fun value =>
        some (mergeValue (Table.find? base name) value))) :
    (Value.table settings).means (.table (merge base rest)) = true := by
  rw [means_table_iff, matches_iff distinct]
  refine ⟨nodup_keys_merge baseDistinct rest, ?_⟩
  intro name
  rw [merge, find?_mergeEntries restDistinct]
  exact each name

/-- Settings that come from merging something over the defaults. -/
def IsOver (defaults settings : Table) : Prop :=
  ∃ override, IsKeyed override ∧ settings = merge defaults override

namespace IsOver

variable {defaults settings : Table} {name : String}

theorem unbound (isOver : IsOver defaults settings) (absent : Table.find? settings name = none) :
    Table.find? defaults name = none := by
  rcases isOver with ⟨override, keyed, rfl⟩
  rw [merge, find?_mergeEntries (isKeyed_iff.mp keyed).1] at absent
  cases given : Table.find? override name with
  | none => rwa [given] at absent
  | some value =>
      rw [given] at absent
      cases absent

theorem below (isOver : IsOver defaults settings) {old entries : Table}
    (bound : Table.find? defaults name = some (.table old))
    (found : Table.find? settings name = some (.table entries)) : IsOver old entries := by
  rcases isOver with ⟨override, keyed, rfl⟩
  rcases isKeyed_iff.mp keyed with ⟨distinct, inside⟩
  rw [merge, find?_mergeEntries distinct, bound] at found
  cases given : Table.find? override name with
  | none =>
      rw [given] at found
      cases found
      exact ⟨[], isKeyed_nil, (merge_nil old).symm⟩
  | some value =>
      rw [given, Option.elim_some, Option.some.injEq] at found
      cases value with
      | table inner => exact ⟨inner, inside name inner given, (Value.table.inj found).symm⟩
      | _ => cases found

end IsOver

section Entry

variable {rest? : Option Value}

/-- What means the same as the rest of an entry restores it over the default, unless both the entry
and the default are tables. -/
theorem restored_of_leaf {default value : Value}
    (leaf : default.isTable = false ∨ value.isTable = false)
    (restored : Value.Agree (differenceOf default value) rest?) :
    Value.Agree (some value) (rest?.elim (some default) fun other =>
      some (mergeValue (some default) other)) := by
  rw [differenceOf_of_leaf leaf] at restored
  split at restored
  · rename_i same
    rw [(eq_none_iff_of_rel restored).mp rfl]
    exact .some same
  · rcases exists_of_rel restored with ⟨other, rfl, like⟩
    rw [isTable_eq_of_means like] at leaf
    rw [Option.elim_some, mergeValue_of_leaf_or leaf]
    exact .some like

/-- What means the same as the rest of a table restores it over a default that is a table, if this
holds of the entries of both. -/
theorem restored_of_tables {old entries : Table}
    (below : ∀ others, (Value.table (differences old entries)).means (.table others) = true →
      (Value.table entries).means (.table (merge old others)) = true)
    (restored : Value.Agree (differenceOf (.table old) (.table entries)) rest?) :
    Value.Agree (some (.table entries)) (rest?.elim (some (.table old)) fun other =>
      some (mergeValue (some (.table old)) other)) := by
  rw [differenceOf_table] at restored
  split at restored
  · -- Nothing was left of the section, so the default takes its place once more.
    rename_i empty
    have whole := below [] (by rw [empty]; rfl)
    rw [merge_nil] at whole
    rw [(eq_none_iff_of_rel restored).mp rfl]
    exact .some whole
  · rcases exists_of_rel restored with ⟨other, rfl, like⟩
    rcases Value.eq_table_of_means like with ⟨others, rfl⟩
    rw [Option.elim_some, mergeValue_tables]
    exact .some (below others like)

end Entry

/-- Merged over the defaults, what means the same as the difference gives settings that mean the
same as those it was taken of. -/
theorem means_merge_differences {defaults settings rest : Table} (defaultsKeyed : IsKeyed defaults)
    (isOver : IsOver defaults settings) (keyed : IsKeyed settings)
    (same : (Value.table (differences defaults settings)).means (.table rest) = true) :
    (Value.table settings).means (.table (merge defaults rest)) = true := by
  rcases isKeyed_iff.mp defaultsKeyed with ⟨defaultsDistinct, defaultsInside⟩
  rcases isKeyed_iff.mp keyed with ⟨distinct, inside⟩
  have leftDistinct := (keys_differences defaults settings).nodup distinct
  rcases (matches_iff leftDistinct).mp (means_table_iff.mp same) with ⟨restDistinct, related⟩
  refine means_merge defaultsDistinct distinct restDistinct ?_
  intro name
  have restored := related name
  rw [find?_differences distinct] at restored
  cases found : Table.find? settings name with
  | none =>
      rw [found] at restored
      rw [(eq_none_iff_of_rel restored).mp rfl, isOver.unbound found]
      exact .none
  | some value =>
      rw [found, Option.bind_some] at restored
      cases bound : Table.find? defaults name with
      | none =>
          rw [bound] at restored
          rcases exists_of_rel restored with ⟨other, given, like⟩
          rw [given, Option.elim_some, mergeValue_none]
          exact .some like
      | some default =>
          rw [bound, entryDifference] at restored
          rcases leaf_or_tables default value with leaf | ⟨old, entries, rfl, rfl⟩
          · exact restored_of_leaf leaf restored
          · refine restored_of_tables ?_ restored
            intro others like
            exact means_merge_differences (defaultsInside name old bound)
              (isOver.below bound found) (inside name entries found) like
termination_by sizeOf settings
decreasing_by exact sizeOf_of_find? found

/-- Settings merged over their defaults once more stay what they are. -/
theorem means_merge_of_means {defaults settings rest : Table} (defaultsKeyed : IsKeyed defaults)
    (isOver : IsOver defaults settings) (keyed : IsKeyed settings)
    (same : (Value.table settings).means (.table rest) = true) :
    (Value.table settings).means (.table (merge defaults rest)) = true := by
  rcases isKeyed_iff.mp defaultsKeyed with ⟨defaultsDistinct, defaultsInside⟩
  rcases isKeyed_iff.mp keyed with ⟨distinct, inside⟩
  rcases (matches_iff distinct).mp (means_table_iff.mp same) with ⟨restDistinct, related⟩
  refine means_merge defaultsDistinct distinct restDistinct ?_
  intro name
  have restored := related name
  cases found : Table.find? settings name with
  | none =>
      rw [found] at restored
      rw [(eq_none_iff_of_rel restored).mp rfl, isOver.unbound found]
      exact .none
  | some value =>
      rw [found] at restored
      rcases exists_of_rel restored with ⟨other, given, like⟩
      rw [given, Option.elim_some]
      apply Option.Rel.some
      cases bound : Table.find? defaults name with
      | none => rwa [mergeValue_none]
      | some default =>
          rcases leaf_or_tables default value with leaf | ⟨old, entries, rfl, rfl⟩
          · rw [isTable_eq_of_means like] at leaf
            rwa [mergeValue_of_leaf_or leaf]
          · rcases Value.eq_table_of_means like with ⟨others, rfl⟩
            exact means_merge_of_means (defaultsInside name old bound) (isOver.below bound found)
              (inside name entries found) like
termination_by sizeOf settings
decreasing_by exact sizeOf_of_find? found

/-! ## What a difference holds -/

/-- A table with an entry that does not mean the same as that of another table means something
else. -/
theorem means_table_eq_false {entries others : Table} {name : String} {value : Value}
    (found : Table.find? entries name = some value)
    (differs : ∀ other, Table.find? others name = some other → value.means other = false) :
    (Value.table entries).means (.table others) = false := by
  rw [Bool.eq_false_iff]
  intro same
  rcases (means_table_iff.mp same).like name value (mem_of_find? found) with ⟨other, given, like⟩
  rw [differs other given] at like
  cases like

theorem exists_find?_of_ne_nil {table : Table} (filled : table ≠ []) :
    ∃ name value, Table.find? table name = some value := by
  cases table with
  | nil => exact absurd rfl filled
  | cons entry later =>
      refine ⟨entry.1, entry.2, ?_⟩
      rw [find?_cons, if_pos rfl]

/-- An entry of a difference does not mean the same as the default under its key. -/
theorem means_eq_false_of_differences {defaults settings : Table} (keyed : IsKeyed settings)
    {name : String} {left default : Value}
    (found : Table.find? (differences defaults settings) name = some left)
    (bound : Table.find? defaults name = some default) : left.means default = false := by
  rcases isKeyed_iff.mp keyed with ⟨distinct, inside⟩
  rw [find?_differences distinct, bound, Option.bind_eq_some_iff] at found
  rcases found with ⟨value, given, kept⟩
  rw [entryDifference] at kept
  rcases leaf_or_tables default value with leaf | ⟨old, entries, rfl, rfl⟩
  · rw [differenceOf_of_leaf leaf] at kept
    split at kept
    · cases kept
    · rename_i different
      cases kept
      exact Bool.eq_false_iff.mpr different
  · rw [differenceOf_table] at kept
    split at kept
    · cases kept
    · rename_i filled
      cases kept
      -- A section that is left holds an entry, and that one differs already.
      rcases exists_find?_of_ne_nil filled with ⟨further, lower, lowerFound⟩
      apply means_table_eq_false lowerFound
      intro other otherBound
      exact means_eq_false_of_differences (inside name entries given) lowerFound otherBound
termination_by sizeOf settings
decreasing_by exact sizeOf_of_find? given

theorem valueAt?_of_leaf {value : Value} (leaf : value.isTable = false) {path : List String}
    (below : path ≠ []) : valueAt? value path = none := by
  cases path with
  | nil => exact absurd rfl below
  | cons name later =>
      cases value with
      | table entries => cases leaf
      | _ => rfl

theorem valueAt?_nil {path : List String} (below : path ≠ []) :
    valueAt? (.table []) path = none := by
  cases path with
  | nil => exact absurd rfl below
  | cons name later => rfl

theorem eq_table_of_valueAt? {value held : Value} {name : String} {later : List String}
    (reached : valueAt? value (name :: later) = some held) : ∃ entries, value = .table entries := by
  cases value with
  | table entries => exact ⟨entries, rfl⟩
  | _ => cases reached

/-- Where a difference and the defaults both hold a value, the two do not mean the same. -/
theorem means_eq_false_of_valueAt? {defaults settings : Table} (keyed : IsKeyed settings)
    {name : String} {later : List String} {left default : Value}
    (held : valueAt? (.table (differences defaults settings)) (name :: later) = some left)
    (bound : valueAt? (.table defaults) (name :: later) = some default) :
    left.means default = false := by
  induction later generalizing defaults settings name with
  | nil =>
      rw [valueAt?_cons, Option.bind_eq_some_iff] at held bound
      rcases held with ⟨_, found, same⟩
      rcases bound with ⟨_, boundHere, same'⟩
      cases same
      cases same'
      exact means_eq_false_of_differences keyed found boundHere
  | cons further later induction =>
      rw [valueAt?_cons, Option.bind_eq_some_iff] at held bound
      rcases held with ⟨lower, found, held⟩
      rcases bound with ⟨lowerDefault, boundHere, bound⟩
      rcases eq_table_of_valueAt? held with ⟨rest, rfl⟩
      rcases eq_table_of_valueAt? bound with ⟨old, rfl⟩
      rcases isKeyed_iff.mp keyed with ⟨distinct, inside⟩
      rw [find?_differences distinct, boundHere, Option.bind_eq_some_iff] at found
      rcases found with ⟨value, given, kept⟩
      rw [entryDifference] at kept
      rcases leaf_or_tables (.table old) value with leaf | ⟨_, entries, same, rfl⟩
      · rw [differenceOf_of_leaf leaf] at kept
        split at kept
        · cases kept
        · cases kept
          simp [Value.isTable] at leaf
      · cases same
        rw [differenceOf_table] at kept
        split at kept
        · cases kept
        · cases kept
          exact induction (inside name entries given) held bound

/-- Where the defaults hold nothing, a difference holds what the settings do. -/
theorem valueAt?_differences {defaults settings : Table} (keyed : IsKeyed settings)
    {path : List String} (unbound : valueAt? (.table defaults) path = none) :
    valueAt? (.table (differences defaults settings)) path = valueAt? (.table settings) path := by
  induction path generalizing defaults settings with
  | nil => cases unbound
  | cons name later induction =>
      rcases isKeyed_iff.mp keyed with ⟨distinct, inside⟩
      rw [valueAt?_cons] at unbound
      rw [valueAt?_cons, valueAt?_cons, find?_differences distinct]
      cases given : Table.find? settings name with
      | none => rfl
      | some value =>
          rw [Option.bind_some]
          cases bound : Table.find? defaults name with
          | none => rfl
          | some default =>
              rw [bound, Option.bind_some] at unbound
              have below : later ≠ [] := by
                rintro rfl
                cases unbound
              rw [entryDifference]
              rcases leaf_or_tables default value with leaf | ⟨old, entries, rfl, rfl⟩
              · rw [differenceOf_of_leaf leaf]
                split
                · rename_i same
                  rw [← isTable_eq_of_means same, or_self] at leaf
                  rw [Option.bind_some, valueAt?_of_leaf leaf below]
                  rfl
                · rfl
              · have rest := induction (inside name entries given) unbound
                rw [differenceOf_table]
                split
                · -- A section of which nothing is left has no entry without a default.
                  rename_i empty
                  rw [Option.bind_some, ← rest, empty, valueAt?_nil below]
                  rfl
                · exact rest

end Stencil.Settings
