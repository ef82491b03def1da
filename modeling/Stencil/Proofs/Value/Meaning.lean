import Mathlib.Data.List.Perm.Subperm
import Stencil.Proofs.Settings.Agreement
import Stencil.Proofs.Settings.Merging
import Stencil.Proofs.Value.Part

/-!
Values that mean the same. Two tables do if they have values that mean the same under the same keys,
in whatever order. Numbers that mean the same may be of different kinds: what is asked of a value
beside its meaning is then lost, unless both are of one kind.
-/

namespace Stencil

/-! ## Tables -/

namespace Table

/-- Each entry of the first table has its like under its key in the second, which has no others. -/
structure Matches (related : Value → Value → Prop) (first second : Table) : Prop where
  length : first.length = second.length
  like : ∀ key value, (key, value) ∈ first →
    ∃ other, find? second key = some other ∧ related value other

variable {related : Value → Value → Prop} {first second : Table}

theorem eq_none_iff_of_rel {found other : Option Value} (same : Option.Rel related found other) :
    found = none ↔ other = none := by
  cases same <;> simp

theorem exists_of_rel {value : Value} {other : Option Value}
    (same : Option.Rel related (some value) other) :
    ∃ like, other = some like ∧ related value like := by
  cases same with
  | some like => exact ⟨_, rfl, like⟩

theorem Matches.keys_perm (matching : Matches related first second)
    (distinct : (keys first).Nodup) : (keys first).Perm (keys second) := by
  have inside : keys first ⊆ keys second := by
    intro key member
    rcases List.mem_map.mp member with ⟨⟨_, value⟩, entry, rfl⟩
    rcases matching.like _ value entry with ⟨other, found, _⟩
    exact List.mem_map.mpr ⟨_, mem_of_find? found, rfl⟩
  apply (List.subperm_of_subset distinct inside).perm_of_length_le
  rw [keys, keys, List.length_map, List.length_map]
  exact Nat.le_of_eq matching.length.symm

/-- Tables match if they have the same keys and what is under each of them is related. -/
theorem matches_iff (distinct : (keys first).Nodup) :
    Matches related first second ↔ (keys second).Nodup ∧
      ∀ name, Option.Rel related (find? first name) (find? second name) := by
  constructor
  · intro matching
    have same := matching.keys_perm distinct
    refine ⟨same.nodup distinct, ?_⟩
    intro name
    cases found : find? first name with
    | none =>
        have absent : name ∉ keys second :=
          fun member => find?_eq_none_iff.mp found (same.mem_iff.mpr member)
        rw [find?_eq_none_iff.mpr absent]
        exact .none
    | some value =>
        rcases matching.like name value (mem_of_find? found) with ⟨other, otherFound, like⟩
        rw [otherFound]
        exact .some like
  · intro ⟨secondDistinct, each⟩
    have member (name : String) : name ∈ keys first ↔ name ∈ keys second := by
      rw [← not_iff_not, ← find?_eq_none_iff, ← find?_eq_none_iff]
      exact eq_none_iff_of_rel (each name)
    have same := (List.perm_ext_iff_of_nodup distinct secondDistinct).mpr member
    constructor
    · simpa [keys] using same.length_eq
    · intro key value entry
      exact exists_of_rel (find?_of_mem distinct entry ▸ each key)

end Table

/-! ## Numbers -/

namespace Binary64

variable {first second : Binary64}

theorem sameValue_self (number : first ≠ .notANumber) : first.sameValue first = true := by
  unfold sameValue
  split <;> simp_all

/-- Numbers of one value are equal or both zero. -/
theorem eq_or_zero_of_sameValue (same : first.sameValue second = true) :
    first = second ∨ ∃ negative exponent negative' exponent',
      first = .finite negative 0 exponent ∧ second = .finite negative' 0 exponent' := by
  unfold sameValue at same
  split at same
  · exact .inr ⟨_, _, _, _, rfl, rfl⟩
  · cases same
  · exact .inl (eq_of_beq same)

theorem toInt?_zero (negative : Bool) (exponent : Int) :
    toInt? (.finite negative 0 exponent) = some 0 := by
  have zero : (scale 2 exponent 0 1).1 = 0 :=
    (scale_fst_eq_zero_iff (by decide) exponent 0 1).mpr rfl
  simp only [toInt?, zero]
  simp

theorem toInt?_eq_of_sameValue (same : first.sameValue second = true) :
    first.toInt? = second.toInt? := by
  rcases eq_or_zero_of_sameValue same with rfl | ⟨_, _, _, _, rfl, rfl⟩
  · rfl
  · rw [toInt?_zero, toInt?_zero]

theorem isFinite_eq_of_sameValue (same : first.sameValue second = true) :
    first.isFinite = second.isFinite := by
  rcases eq_or_zero_of_sameValue same with rfl | ⟨_, _, _, _, rfl, rfl⟩ <;> rfl

end Binary64

namespace Value

variable {left right : Value}

def isNumber : Value → Bool
  | bool _ | int _ | float _ => true
  | _ => false

theorem isTable_of_isNumber (number : left.isNumber = true) : left.isTable = false := by
  cases left <;> first | rfl | cases number

theorem numbers_of_sameNumber? (same : sameNumber? left right = some true) :
    left.isNumber = true ∧ right.isNumber = true ∧ left.wholeNumber? = right.wholeNumber? := by
  unfold sameNumber? at same
  split at same
  · exact ⟨rfl, rfl, Binary64.toInt?_eq_of_sameValue (Option.some.inj same)⟩
  · split at same
    all_goals first
      | cases same
      | simp only [Option.some.injEq, Bool.and_eq_true, beq_iff_eq] at same
        exact ⟨rfl, rfl, same.2⟩

/-- A number counts as false only if it is the integer zero. -/
theorem isTruthy_of_isNumber (number : left.isNumber = true) :
    left.isTruthy = (left.wholeNumber? != some 0) := by
  cases left with
  | bool value => cases value <;> rfl
  | int value =>
      rw [Bool.eq_iff_iff]
      simp [isTruthy, wholeNumber?]
  | float value =>
      cases value with
      | finite negative mantissa exponent =>
          have zero : Binary64.toInt? (.finite negative mantissa exponent) = some 0 ↔
              mantissa = 0 := by
            constructor
            · exact fun whole => (Binary64.toInt?_eq_zero_iff whole).mp rfl
            · rintro rfl
              exact Binary64.toInt?_zero negative exponent
          rw [Bool.eq_iff_iff]
          simp [isTruthy, wholeNumber?, zero]
      | _ => rfl
  | _ => cases number

/-! ## Meaning -/

theorem meansEntries_cons (key : String) (value : Value) (later others : List (String × Value)) :
    meansEntries ((key, value) :: later) others =
      ((Table.find? others key).any value.means && meansEntries later others) := by
  rw [meansEntries]
  cases Table.find? others key <;> rfl

theorem meansEntries_iff {entries others : List (String × Value)} :
    meansEntries entries others = true ↔ ∀ key value, (key, value) ∈ entries →
      ∃ other, Table.find? others key = some other ∧ value.means other = true := by
  induction entries with
  | nil => simp [meansEntries]
  | cons entry later induction =>
      rcases entry with ⟨key, value⟩
      rw [meansEntries_cons, Bool.and_eq_true, Option.any_eq_true, induction]
      constructor
      · intro ⟨first, rest⟩ name given member
        rcases List.mem_cons.mp member with equal | member
        · cases equal
          exact first
        · exact rest name given member
      · intro each
        exact ⟨each key value List.mem_cons_self,
          fun name given member => each name given (List.mem_cons_of_mem _ member)⟩

theorem means_table_iff {entries others : Table} :
    (table entries).means (table others) = true ↔
      Table.Matches (fun value other => value.means other = true) entries others := by
  rw [means, Bool.and_eq_true, beq_iff_eq, meansEntries_iff]
  exact ⟨fun ⟨length, like⟩ => ⟨length, like⟩, fun ⟨length, like⟩ => ⟨length, like⟩⟩

/-- What two tables hold under a key means the same, or neither holds anything there. -/
abbrev Agree (found other : Option Value) : Prop :=
  Option.Rel (fun value other => value.means other = true) found other

/-- What two values are if they mean the same. -/
theorem cases_of_means (same : left.means right = true) :
    left = right ∨ sameNumber? left right = some true ∨
      (∃ first second, left = dateTime first ∧ right = dateTime second) ∨
      (∃ members others, left = list members ∧ right = list others ∧
        meansAll members others = true) ∨
      ∃ entries others, left = table entries ∧ right = table others := by
  have number (same : (sameNumber? left right).getD false = true) :
      sameNumber? left right = some true := by
    cases found : sameNumber? left right with
    | none => simp [found] at same
    | some truth => simpa [found] using same
  cases left with
  | bool | int | float =>
      rw [means] at same
      exact .inr (.inl (number same))
  | dateTime =>
      cases right with
      | dateTime => exact .inr (.inr (.inl ⟨_, _, rfl, rfl⟩))
      | _ => simp [means] at same
  | list members =>
      cases right with
      | list others =>
          rw [means] at same
          exact .inr (.inr (.inr (.inl ⟨members, others, rfl, rfl, same⟩)))
      | _ => simp [means] at same
  | table entries =>
      cases right with
      | table others => exact .inr (.inr (.inr (.inr ⟨entries, others, rfl, rfl⟩)))
      | _ => simp [means] at same
  | _ =>
      cases right <;> simp [means] at same
      all_goals simp [same]

theorem isTable_eq_of_means (same : left.means right = true) : left.isTable = right.isTable := by
  rcases cases_of_means same with
    rfl | number | ⟨_, _, rfl, rfl⟩ | ⟨_, _, rfl, rfl, _⟩ | ⟨_, _, rfl, rfl⟩
  · rfl
  · rcases numbers_of_sameNumber? number with ⟨leftNumber, rightNumber, _⟩
    rw [isTable_of_isNumber leftNumber, isTable_of_isNumber rightNumber]
  all_goals rfl

theorem eq_table_of_means {entries : Table} (same : (table entries).means right = true) :
    ∃ others, right = table others := by
  cases right with
  | table others => exact ⟨others, rfl⟩
  | _ => simp [means] at same

/-- Numbers of one kind that mean the same are equal, or both floats of one value. -/
theorem eq_or_float_of_kind (same : sameNumber? left right = some true)
    (kind : left.kind = right.kind) :
    left = right ∨ ∃ first second, left = float first ∧ right = float second ∧
      first.sameValue second = true := by
  rcases numbers_of_sameNumber? same with ⟨leftNumber, rightNumber, whole⟩
  cases left with
  | bool first =>
      cases right with
      | bool second => cases first <;> cases second <;> simp [wholeNumber?] at whole ⊢
      | _ => simp [Value.kind] at kind
  | int first =>
      cases right with
      | int second => simpa [wholeNumber?] using whole
      | _ => simp [Value.kind] at kind
  | float first =>
      cases right with
      | float second => exact .inr ⟨first, second, rfl, rfl, Option.some.inj same⟩
      | _ => simp [Value.kind] at kind
  | _ => cases leftNumber

/-- Values that mean the same count as true or false alike. -/
theorem isTruthy_eq_of_means (same : left.means right = true) : left.isTruthy = right.isTruthy := by
  rcases cases_of_means same with
    rfl | number | ⟨_, _, rfl, rfl⟩ | ⟨members, others, rfl, rfl, all⟩ | ⟨entries, others, rfl, rfl⟩
  · rfl
  · rcases numbers_of_sameNumber? number with ⟨leftNumber, rightNumber, whole⟩
    rw [isTruthy_of_isNumber leftNumber, isTruthy_of_isNumber rightNumber, whole]
  · rfl
  · cases members <;> cases others <;> simp_all [meansAll, isTruthy]
  · have length := (means_table_iff.mp same).length
    cases entries <;> cases others <;> simp_all [isTruthy]

/-! ## Values that a document can hold -/

/-- A value in which nothing is missing, every number is one, and no table has a key twice. -/
structure IsRepresentable (value : Value) : Prop where
  present : ¬ IsPart null value
  comparable : ¬ IsPart (float .notANumber) value
  keyed : ∀ entries, IsPart (table entries) value → (Table.keys entries).Nodup

theorem IsRepresentable.of_children (present : left ≠ null)
    (comparable : left ≠ float .notANumber)
    (distinct : ∀ entries, left = table entries → (Table.keys entries).Nodup)
    (each : ∀ child ∈ left.children, IsRepresentable child) : IsRepresentable left := by
  constructor
  · rw [isPart_iff]
    rintro (equal | ⟨child, member, isPart⟩)
    · exact present equal.symm
    · exact (each child member).present isPart
  · rw [isPart_iff]
    rintro (equal | ⟨child, member, isPart⟩)
    · exact comparable equal.symm
    · exact (each child member).comparable isPart
  · intro entries isPart
    rcases isPart_iff.mp isPart with equal | ⟨child, member, isPart⟩
    · exact distinct entries equal.symm
    · exact (each child member).keyed entries isPart

theorem IsRepresentable.child (representable : IsRepresentable left)
    (member : right ∈ left.children) : IsRepresentable right := by
  have inside {part : Value} (isPart : IsPart part right) : IsPart part left :=
    isPart_iff.mpr (.inr ⟨right, member, isPart⟩)
  exact ⟨fun missing => representable.present (inside missing),
    fun noNumber => representable.comparable (inside noNumber),
    fun entries isPart => representable.keyed entries (inside isPart)⟩

theorem isRepresentable_table_iff {entries : Table} :
    IsRepresentable (table entries) ↔ (Table.keys entries).Nodup ∧
      ∀ name value, Table.find? entries name = some value → IsRepresentable value := by
  constructor
  · intro representable
    refine ⟨representable.keyed entries (isPart_iff.mpr (.inl rfl)), ?_⟩
    intro name value found
    exact representable.child (List.mem_map_of_mem (Table.mem_of_find? found))
  · intro ⟨distinct, each⟩
    refine .of_children nofun nofun (fun _ same => table.inj same ▸ distinct) ?_
    intro child member
    rcases List.mem_map.mp member with ⟨⟨name, value⟩, entry, rfl⟩
    exact each name value (Table.find?_of_mem distinct entry)

theorem isRepresentable_of_leaf (present : left ≠ null) (comparable : left ≠ float .notANumber)
    (childless : left.children = []) : IsRepresentable left := by
  refine .of_children present comparable ?_ ?_
  · rintro entries rfl
    rw [children, List.map_eq_nil_iff] at childless
    rw [childless]
    exact List.nodup_nil
  · rw [childless]
    intro child absurdity
    cases absurdity

theorem isRepresentable_table {entries : Table} (distinct : (Table.keys entries).Nodup)
    (each : ∀ entry ∈ entries, IsRepresentable entry.2) : IsRepresentable (table entries) :=
  isRepresentable_table_iff.mpr ⟨distinct, fun _ _ found => each _ (Table.mem_of_find? found)⟩

theorem meansAll_self {members : List Value}
    (each : ∀ member ∈ members, member.means member = true) : meansAll members members = true := by
  induction members with
  | nil => rfl
  | cons member later induction =>
      rw [List.forall_mem_cons] at each
      rw [meansAll, each.1, induction each.2]
      rfl

theorem means_self (representable : IsRepresentable left) : left.means left = true := by
  induction left using Value.induction with
  | step value induction =>
      have inside : ∀ child ∈ value.children, child.means child = true :=
        fun child member => induction child member (representable.child member)
      cases value with
      | null => rfl
      | bool value => simp [means, sameNumber?, wholeNumber?]
      | int value => simp [means, sameNumber?, wholeNumber?]
      | float value =>
          have number : value ≠ .notANumber := by
            rintro rfl
            exact representable.comparable (isPart_iff.mpr (.inl rfl))
          simp [means, sameNumber?, Binary64.sameValue_self number]
      | text value | date value | time value => simp [means]
      | dateTime value =>
          rw [means, DateTime.sameMoment]
          cases value.offset <;> simp
      | list members =>
          rw [means]
          exact meansAll_self inside
      | table entries =>
          refine means_table_iff.mpr ⟨rfl, ?_⟩
          intro key value member
          have distinct := representable.keyed entries (isPart_iff.mpr (.inl rfl))
          exact ⟨value, Table.find?_of_mem distinct member,
            inside value (List.mem_map_of_mem member)⟩

/-! ## Kinds -/

mutual

/-- Whether two values are of one kind, and so are those that they hold under the same keys. -/
def sameKinds : Value → Value → Bool
  | table entries, other => match other with
      | table others => sameKindsEntries entries others
      | _ => false
  | value, other => value.kind == other.kind

/-- Whether each entry is of the kind of that under its key in `others`. -/
def sameKindsEntries : List (String × Value) → List (String × Value) → Bool
  | [], _ => true
  | (key, value) :: later, others =>
      (match Table.find? others key with
      | some other => value.sameKinds other
      | none => false) && sameKindsEntries later others

end

theorem sameKinds_of_mem {entries others : Table} (same : sameKindsEntries entries others = true)
    {key : String} {value other : Value} (member : (key, value) ∈ entries)
    (found : Table.find? others key = some other) : value.sameKinds other = true := by
  induction entries with
  | nil => cases member
  | cons entry later induction =>
      rcases entry with ⟨first, given⟩
      rw [sameKindsEntries, Bool.and_eq_true] at same
      rcases List.mem_cons.mp member with equal | member
      · cases equal
        simpa [found] using same.1
      · exact induction same.2 member

theorem kind_eq_of_sameKinds (same : left.sameKinds right = true) : left.kind = right.kind := by
  cases left with
  | table entries =>
      cases right with
      | table others => rfl
      | _ => cases same
  | _ => simpa [sameKinds] using same

end Value

end Stencil
