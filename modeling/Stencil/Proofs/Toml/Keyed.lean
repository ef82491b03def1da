import Stencil.Proofs.Settings.Layers
import Stencil.Toml.Document

/-!
Tables of a document have no key twice. A statement changes the table at a chain of keys, and every
table outside a list stays keyed as long as the change itself puts no key in twice.
-/

namespace Stencil.Toml

open Settings (IsKeyed isKeyed_nil bind_eq_ok map_eq_ok)

/-! ## Changes of a table -/

/-- A change that puts no key in twice. -/
def KeepsKeyed (change : Table → Option Table) : Prop :=
  ∀ table changed, IsKeyed table → change table = some changed → IsKeyed changed

/-- A value that is keyed if it is a table. -/
def IsKeyedValue (value : Value) : Prop := ∀ inner, value = .table inner → IsKeyed inner

theorem isKeyedValue_of_leaf {value : Value} (leaf : value.isTable = false) :
    IsKeyedValue value := by
  intro inner equal
  subst equal
  cases leaf

theorem keepsKeyed_some : KeepsKeyed some := by
  intro table changed keyed same
  cases same
  exact keyed

theorem keepsKeyed_insert {value : Value} (keyedValue : IsKeyedValue value) (name : String) :
    KeepsKeyed fun table =>
      if Table.contains table name then none else some (Table.set table name value) := by
  intro table changed keyed inserted
  simp only at inserted
  split at inserted
  · cases inserted
  · cases inserted
    exact keyed.set name keyedValue

theorem keepsKeyed_appendTable (name : String) : KeepsKeyed (appendTable name) := by
  intro table changed keyed appended
  rw [appendTable] at appended
  split at appended
  · cases appended
    exact keyed.set name (isKeyedValue_of_leaf rfl)
  · cases appended
    exact keyed.set name (isKeyedValue_of_leaf rfl)
  · cases appended

theorem isKeyed_updateTable {entersLists : Bool} {change : Table → Option Table}
    (keeps : KeepsKeyed change) {key : Key} {table changed : Table} (keyed : IsKeyed table)
    (updated : updateTable entersLists change table key = some changed) : IsKeyed changed := by
  induction key generalizing table changed with
  | nil => exact keeps table changed keyed updated
  | cons name later induction =>
      have set {inner : Table} (innerKeyed : IsKeyed inner) :
          IsKeyed (Table.set table name (.table inner)) :=
        keyed.set name fun _ same => Value.table.inj same ▸ innerKeyed
      rw [updateTable] at updated
      split at updated
      · rcases Option.map_eq_some_iff.mp updated with ⟨inner, below, rfl⟩
        exact set (induction isKeyed_nil below)
      · rename_i old found
        rcases Option.map_eq_some_iff.mp updated with ⟨inner, below, rfl⟩
        exact set (induction ((Settings.isKeyed_iff.mp keyed).2 name old found) below)
      · split at updated
        · rcases Option.map_eq_some_iff.mp updated with ⟨inner, _, rfl⟩
          exact keyed.set name (isKeyedValue_of_leaf rfl)
        · cases updated
      · cases updated

/-! ## Scalars -/

section Scalar

variable {text rest : List Char} {value : Value}

theorem isTable_calendarValue? (read : calendarValue? text = some (.ok (value, rest))) :
    value.isTable = false := by
  rw [calendarValue?] at read
  split at read
  · rw [Option.some.injEq] at read
    split at read
    · cases read
    · split at read
      · cases read
        rfl
      · cases read
        rfl
  · rcases Option.map_eq_some_iff.mp read with ⟨_, _, same⟩
    cases same
    rfl

theorem isTable_radixNumber? (read : radixNumber? text = some (value, rest)) :
    value.isTable = false := by
  simp only [radixNumber?, Option.bind_eq_bind, Option.pure_def] at read
  split at read
  case h_4 => cases read
  all_goals
    rw [Option.bind_some] at read
    rcases Option.bind_eq_some_iff.mp read with ⟨_, _, same⟩
    cases same
    rfl

theorem isTable_decimalNumber? (read : decimalNumber? text = some (.ok (value, rest))) :
    value.isTable = false := by
  simp only [decimalNumber?, Option.bind_eq_bind, Option.bind_eq_some_iff] at read
  rcases read with ⟨_, _, read⟩
  split at read
  · split at read
    · cases read
    · cases read
      rfl
  · cases read
    rfl

theorem isTable_specialNumber? (read : specialNumber? text = some (value, rest)) :
    value.isTable = false := by
  simp only [specialNumber?] at read
  split at read
  · cases read
    rfl
  · cases read
    rfl
  · cases read

theorem isTable_scalar (read : scalar text = .ok (value, rest)) : value.isTable = false := by
  rw [scalar] at read
  split at read
  · cases read
    rfl
  split at read
  · cases read
    rfl
  split at read
  · rename_i reading found
    exact isTable_calendarValue? (read ▸ found)
  split at read
  · rename_i reading found
    cases read
    exact isTable_radixNumber? found
  split at read
  · rename_i reading found
    exact isTable_decimalNumber? (read ▸ found)
  split at read
  · rename_i reading found
    cases read
    exact isTable_specialNumber? found
  · cases read

end Scalar

/-! ## Values -/

theorem isKeyed_add {inline added : InlineTable} {key : Key} {value : Value} {rest : List Char}
    (keyed : IsKeyed inline.entries) (keyedValue : IsKeyedValue value)
    (ok : inline.add key value rest = .ok added) : IsKeyed added.entries := by
  rw [InlineTable.add] at ok
  split at ok
  · cases ok
  split at ok
  · cases ok
  simp only at ok
  generalize made : updateTable false _ inline.entries key.dropLast = result at ok
  cases result with
  | none => cases ok
  | some entries =>
      cases ok
      exact isKeyed_updateTable (keepsKeyed_insert keyedValue _) keyed made

/-- An inline table is keyed, and so is one inside it. -/
theorem isKeyedValue_value (limit : Nat) :
    (∀ {text value rest}, Toml.value limit text = .ok (value, rest) → IsKeyedValue value) ∧
      ∀ {inline text entries rest}, IsKeyed inline.entries →
        inlineEntries limit inline text = .ok (entries, rest) → IsKeyed entries := by
  induction limit with
  | zero =>
      constructor
      · intro text value rest read
        rw [Toml.value] at read
        cases read
      · intro inline text entries rest _ read
        rw [inlineEntries] at read
        cases read
  | succ limit induction =>
      rcases induction with ⟨valueKeyed, entriesKeyed⟩
      constructor
      · intro text value rest read
        unfold Toml.value at read
        split at read
        case h_3 =>
          rcases bind_eq_ok.mp read with ⟨inside, _, read⟩
          split at read
          · cases read
            exact isKeyedValue_of_leaf rfl
          · rcases bind_eq_ok.mp read with ⟨_, _, same⟩
            cases same
            exact isKeyedValue_of_leaf rfl
        case h_4 =>
          split at read
          · cases read
            exact fun _ same => Value.table.inj same ▸ isKeyed_nil
          · rcases bind_eq_ok.mp read with ⟨⟨entries, _⟩, inside, same⟩
            cases same
            exact fun _ same => Value.table.inj same ▸ entriesKeyed isKeyed_nil inside
        case h_5 => exact isKeyedValue_of_leaf (isTable_scalar read)
        all_goals
          rcases map_eq_ok.mp read with ⟨_, _, same⟩
          cases same
          exact isKeyedValue_of_leaf rfl
      · intro inline text entries rest keyed read
        rw [inlineEntries] at read
        rcases bind_eq_ok.mp read with ⟨⟨name, behind⟩, _, read⟩
        simp only at read
        split at read
        · rcases bind_eq_ok.mp read with ⟨⟨member, afterValue⟩, first, read⟩
          rcases bind_eq_ok.mp read with ⟨added, ok, read⟩
          have addedKeyed := isKeyed_add keyed (valueKeyed first) ok
          split at read
          · cases read
            exact addedKeyed
          · exact entriesKeyed addedKeyed read
          · cases read
        · cases read

/-! ## Documents -/

namespace Document

variable {document next : Document} {text rest : List Char}

theorem isKeyed_assign (keyed : IsKeyed document.tables)
    (ok : document.assign text = .ok (next, rest)) : IsKeyed next.tables := by
  rw [assign] at ok
  rcases bind_eq_ok.mp ok with ⟨⟨name, behind⟩, _, ok⟩
  simp only at ok
  split at ok
  · rcases bind_eq_ok.mp ok with ⟨⟨assigned, afterValue⟩, read, ok⟩
    have insertKeyed := (isKeyedValue_value _).1 read
    simp only at ok
    split at ok
    · cases ok
    split at ok
    · cases ok
    split at ok
    · cases ok
    · rename_i tables updated
      cases ok
      exact isKeyed_updateTable (keepsKeyed_insert insertKeyed _) keyed updated
  · cases ok

theorem isKeyed_openTable (keyed : IsKeyed document.tables)
    (ok : document.openTable text = .ok (next, rest)) : IsKeyed next.tables := by
  rw [openTable] at ok
  rcases bind_eq_ok.mp ok with ⟨⟨name, behind⟩, _, ok⟩
  simp only at ok
  split at ok
  · cases ok
  split at ok
  · cases ok
  rename_i tables updated
  split at ok
  · cases ok
    exact isKeyed_updateTable keepsKeyed_some keyed updated
  · cases ok

theorem isKeyed_openArray (keyed : IsKeyed document.tables)
    (ok : document.openArray text = .ok (next, rest)) : IsKeyed next.tables := by
  rw [openArray] at ok
  rcases bind_eq_ok.mp ok with ⟨⟨name, behind⟩, _, ok⟩
  simp only at ok
  split at ok
  · cases ok
  split at ok
  · cases ok
  rename_i tables updated
  split at ok
  · cases ok
    exact isKeyed_updateTable (keepsKeyed_appendTable _) keyed updated
  · cases ok

theorem isKeyed_statement (keyed : IsKeyed document.tables)
    (ok : document.statement text = .ok (next, rest)) : IsKeyed next.tables := by
  have settledKeyed : IsKeyed { document with
      declarations := document.declarations.settle : Document }.tables := keyed
  unfold statement at ok
  split at ok
  · cases ok
    exact keyed
  · exact isKeyed_openArray settledKeyed ok
  · exact isKeyed_openTable settledKeyed ok
  · split at ok
    · exact isKeyed_assign keyed ok
    · cases ok
  · cases ok
    exact keyed

theorem isKeyed_readLines {limit : Nat} (keyed : IsKeyed document.tables)
    (ok : readLines limit document text = .ok next) : IsKeyed next.tables := by
  induction limit generalizing document text with
  | zero =>
      cases ok
      exact keyed
  | succ limit induction =>
      rw [readLines] at ok
      split at ok
      · cases ok
        exact keyed
      · exact induction keyed ok
      · rcases bind_eq_ok.mp ok with ⟨⟨later, behind⟩, stated, ok⟩
        have laterKeyed := isKeyed_statement keyed stated
        rcases bind_eq_ok.mp ok with ⟨left, _, ok⟩
        split at ok
        · cases ok
          exact laterKeyed
        · exact induction laterKeyed ok
        · cases ok

end Document

/-- The table that a document stands for is keyed. -/
theorem isKeyed_read {document : String} {table : Table} (ok : read document = .ok table) :
    IsKeyed table := by
  rcases map_eq_ok.mp ok with ⟨ended, lines, rfl⟩
  exact Document.isKeyed_readLines isKeyed_nil lines

end Stencil.Toml
