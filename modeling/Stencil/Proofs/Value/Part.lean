import Stencil.Json.Write
import Stencil.Toml.Write
import Stencil.Yaml.Write

/-!
The values inside a value, and which of them keep it from being written. Each format leaves out
something: TOML has no form for what is missing, JSON none for an integer that is too wide or for
brackets in too many others, and YAML none for a time without a date.
-/

namespace Stencil

namespace Value

/-! ## Parts -/

/-- The values that stand directly in a value. -/
def children : Value → List Value
  | list members => members
  | table entries => entries.map (·.2)
  | _ => []

/-- A value has the property if it has it as soon as its children have it. -/
theorem induction {motive : Value → Prop}
    (step : ∀ value, (∀ child ∈ value.children, motive child) → motive value) (value : Value) :
    motive value := by
  apply step
  intro child member
  match value with
  | list members => exact induction step child
  | table entries => exact induction step child
termination_by sizeOf value
decreasing_by
  · have smaller := List.sizeOf_lt_of_mem member
    simp only [children] at smaller
    simp only [list.sizeOf_spec]
    omega
  · rcases List.mem_map.mp member with ⟨⟨key, inner⟩, inEntries, rfl⟩
    have smaller := List.sizeOf_lt_of_mem inEntries
    simp only [Prod.mk.sizeOf_spec] at smaller
    simp only [table.sizeOf_spec]
    omega

/-- The part stands in a value, inside as many lists and tables as `depth` says. -/
inductive IsPartAt (part : Value) : (depth : Nat) → (whole : Value) → Prop where
  | self : IsPartAt part 0 part
  | inside {depth : Nat} {child whole : Value} (member : child ∈ whole.children)
      (below : IsPartAt part depth child) : IsPartAt part (depth + 1) whole

def IsPart (part whole : Value) : Prop := ∃ depth, IsPartAt part depth whole

/-- A value has a part of a kind that depends on the depth if it is one itself or has one in a
child, one further down. -/
theorem exists_isPartAt_iff (kind : Nat → Value → Prop) (whole : Value) :
    (∃ depth part, IsPartAt part depth whole ∧ kind depth part) ↔
      kind 0 whole ∨ ∃ child ∈ whole.children, ∃ depth part, IsPartAt part depth child ∧
        kind (depth + 1) part := by
  constructor
  · rintro ⟨depth, part, isPart, holds⟩
    cases isPart with
    | self => exact .inl holds
    | inside member below => exact .inr ⟨_, member, _, part, below, holds⟩
  · rintro (holds | ⟨child, member, depth, part, below, holds⟩)
    · exact ⟨0, whole, .self, holds⟩
    · exact ⟨depth + 1, part, .inside member below, holds⟩

theorem isPart_iff {part whole : Value} :
    IsPart part whole ↔ part = whole ∨ ∃ child ∈ whole.children, IsPart part child := by
  have parts := exists_isPartAt_iff (fun _ other => other = part) whole
  simpa [IsPart, eq_comm] using parts

/-- A failure that is one of the value itself or of a child, one further down, is one of a part. -/
theorem iff_exists_isPartAt (fails : Nat → Value → Prop) {barred : Nat → Value → Prop}
    (step : ∀ level whole, fails level whole ↔
      barred level whole ∨ ∃ child ∈ whole.children, fails (level + 1) child)
    (level : Nat) (whole : Value) :
    fails level whole ↔ ∃ depth part, IsPartAt part depth whole ∧ barred (level + depth) part := by
  induction whole using Value.induction generalizing level with
  | step whole induction =>
      rw [step, exists_isPartAt_iff fun depth part => barred (level + depth) part]
      refine or_congr Iff.rfl (exists_congr fun child => and_congr_right fun member => ?_)
      rw [induction child member]
      simp only [Nat.add_assoc, Nat.add_comm 1]

end Value

/-! ## TOML -/

namespace Toml

theorem memberLines?_eq_none_iff {level : Nat} {members : List Value} :
    memberLines? level members = none ↔
      ∃ member ∈ members, inlineText? (level + 1) member = none := by
  induction members with
  | nil => simp [memberLines?]
  | cons member later induction =>
      simp only [memberLines?, List.mem_cons, exists_eq_or_imp, ← induction]
      cases inlineText? (level + 1) member <;> cases memberLines? level later <;> simp

theorem inlineEntries?_eq_none_iff {entries : List (String × Value)} :
    inlineEntries? entries = none ↔
      ∃ child ∈ Value.children (.table entries), inlineText? 0 child = none := by
  rw [Value.children]
  induction entries with
  | nil => simp [inlineEntries?]
  | cons entry later induction =>
      simp only [inlineEntries?, List.map_cons, List.mem_cons, exists_eq_or_imp, ← induction]
      cases inlineText? 0 entry.2 <;> cases inlineEntries? later <;> simp

theorem inlineText?_list_eq_none_iff {level : Nat} {members : List Value} :
    inlineText? level (.list members) = none ↔
      ∃ member ∈ members, inlineText? (level + 1) member = none := by
  rw [← memberLines?_eq_none_iff]
  cases members with
  | nil => simp [inlineText?, memberLines?]
  | cons member later =>
      cases lines : memberLines? level (member :: later) <;> simp [inlineText?, lines]

theorem inlineText?_table_eq_none_iff {level : Nat} {entries : List (String × Value)} :
    inlineText? level (.table entries) = none ↔
      ∃ child ∈ Value.children (.table entries), inlineText? 0 child = none := by
  rw [← inlineEntries?_eq_none_iff]
  cases entries with
  | nil => simp [inlineText?, inlineEntries?]
  | cons entry later =>
      cases parts : inlineEntries? (entry :: later) <;> simp [inlineText?, parts]

/-- On a line of its own, a value has no form if and only if something in it is missing. -/
theorem inlineText?_eq_none_iff {level : Nat} {value : Value} :
    inlineText? level value = none ↔ Value.IsPart .null value := by
  induction value using Value.induction generalizing level with
  | step value induction =>
      rw [Value.isPart_iff]
      cases value with
      | list members =>
          rw [inlineText?_list_eq_none_iff, or_iff_right (by simp)]
          exact exists_congr fun child => and_congr_right fun member => induction child member
      | table entries =>
          rw [inlineText?_table_eq_none_iff, or_iff_right (by simp)]
          exact exists_congr fun child => and_congr_right fun member => induction child member
      | bool value => cases value <;> simp [inlineText?, Value.children]
      | _ => simp [inlineText?, Value.children]

theorem mapM_eq_none_iff {α β : Type} {read : α → Option β} {items : List α} :
    items.mapM read = none ↔ ∃ item ∈ items, read item = none := by
  induction items with
  | nil => simp
  | cons item later induction =>
      simp only [List.mapM_cons, List.mem_cons, exists_eq_or_imp, ← induction]
      cases read item <;> cases later.mapM read <;> simp

theorem plainLines?_eq_none_iff {entries : List (String × Value)} :
    plainLines? entries = none ↔ ∃ child ∈ Value.children (.table entries),
      standsApart child = false ∧ Value.IsPart .null child := by
  have lines : plainLines? entries = none ↔
      ∃ entry ∈ entries.filter (!standsApart ·.2), inlineText? 0 entry.2 = none := by
    rw [plainLines?, Option.map_eq_map, Option.map_eq_none_iff, mapM_eq_none_iff]
    refine exists_congr fun entry => and_congr_right fun _ => ?_
    cases text : inlineText? 0 entry.2 <;> simp [text]
  rw [lines, Value.children]
  constructor
  · rintro ⟨entry, kept, failed⟩
    rcases List.mem_filter.mp kept with ⟨member, plain⟩
    exact ⟨entry.2, List.mem_map_of_mem member, by simpa using plain,
      inlineText?_eq_none_iff.mp failed⟩
  · rintro ⟨child, inside, plain, isPart⟩
    rcases List.mem_map.mp inside with ⟨entry, member, rfl⟩
    exact ⟨entry, List.mem_filter.mpr ⟨member, by simpa using plain⟩,
      inlineText?_eq_none_iff.mpr isPart⟩

theorem headBlock?_eq_none_iff {name : String} {inArray : Bool} {entries : List (String × Value)} :
    headBlock? name inArray entries = none ↔ plainLines? entries = none := by
  rw [headBlock?]
  cases plainLines? entries <;> simp

theorem blocksBelow?_eq_none_iff {name : String} {entries : List (String × Value)} :
    blocksBelow? name entries = none ↔
      ∃ entry ∈ entries, blocksOf? (below name entry.1) entry.2 = none := by
  induction entries with
  | nil => simp [blocksBelow?]
  | cons entry later induction =>
      simp only [blocksBelow?, List.mem_cons, exists_eq_or_imp, ← induction]
      cases blocksOf? (below name entry.1) entry.2 <;> cases blocksBelow? name later <;> simp

/-- A value has no blocks only if it stands apart and something in it is missing. -/
def BlocksAgree (value : Value) : Prop :=
  ∀ name, blocksOf? name value = none ↔ standsApart value = true ∧ Value.IsPart .null value

/-- What is missing in a table is missing on one of its lines or in one of the blocks below. -/
theorem tableBlocks_eq_none_iff {entries : List (String × Value)}
    (agree : ∀ child ∈ Value.children (.table entries), BlocksAgree child) (name : String)
    (inArray : Bool) :
    headBlock? name inArray entries = none ∨ blocksBelow? name entries = none ↔
      Value.IsPart .null (.table entries) := by
  have below : blocksBelow? name entries = none ↔ ∃ child ∈ Value.children (.table entries),
      standsApart child = true ∧ Value.IsPart .null child := by
    rw [blocksBelow?_eq_none_iff, Value.children]
    constructor
    · rintro ⟨entry, member, failed⟩
      have inside : entry.2 ∈ entries.map (·.2) := List.mem_map_of_mem member
      exact ⟨entry.2, inside, (agree entry.2 inside _).mp failed⟩
    · rintro ⟨child, inside, fails⟩
      rcases List.mem_map.mp inside with ⟨entry, member, rfl⟩
      exact ⟨entry, member, (agree entry.2 inside _).mpr fails⟩
  have inside : Value.IsPart .null (.table entries) ↔
      ∃ child ∈ Value.children (.table entries), Value.IsPart .null child := by
    rw [Value.isPart_iff, or_iff_right (by simp)]
  rw [headBlock?_eq_none_iff, plainLines?_eq_none_iff, below, inside, ← exists_or]
  refine exists_congr fun child => ?_
  cases standsApart child <;> simp

theorem arrayBlocks?_eq_none_iff {members : List Value} (areTables : members.all isTable = true)
    (agree : ∀ member ∈ members, ∀ child ∈ member.children, BlocksAgree child) (name : String) :
    arrayBlocks? name members = none ↔ ∃ member ∈ members, Value.IsPart .null member := by
  induction members with
  | nil => simp [arrayBlocks?]
  | cons member later induction =>
      rw [List.all_cons, Bool.and_eq_true] at areTables
      rcases List.forall_mem_cons.mp agree with ⟨agreeHere, agreeLater⟩
      cases member with
      | table entries =>
          have here := tableBlocks_eq_none_iff agreeHere name true
          simp only [List.mem_cons, exists_eq_or_imp, ← here, ← induction areTables.2 agreeLater,
            arrayBlocks?]
          cases headBlock? name true entries <;> cases blocksBelow? name entries <;>
            cases arrayBlocks? name later <;> simp
      | _ => cases areTables.1

/-- The children are taken along, for the blocks of an array are those of its tables. -/
theorem blocksAgree (value : Value) :
    BlocksAgree value ∧ ∀ child ∈ value.children, BlocksAgree child := by
  induction value using Value.induction with
  | step value induction =>
      have agree : ∀ child ∈ value.children, BlocksAgree child :=
        fun child member => (induction child member).1
      refine ⟨?_, agree⟩
      intro name
      cases value with
      | table entries =>
          rw [← tableBlocks_eq_none_iff agree name false, blocksOf?]
          cases headBlock? name false entries <;> cases blocksBelow? name entries <;>
            simp [standsApart]
      | list members =>
          rw [blocksOf?]
          cases apart : standsApart (.list members) with
          | false => simp
          | true =>
              have areTables : members.all isTable = true := by
                simp only [standsApart, Bool.and_eq_true] at apart
                exact apart.1.2
              rw [if_pos rfl, arrayBlocks?_eq_none_iff areTables
                fun member found => (induction member found).2, Value.isPart_iff,
                or_iff_right (by simp), Value.children]
              simp
      | _ => simp [blocksOf?, standsApart]

/-- A table has no document if and only if something in it is missing. -/
theorem write?_eq_none_iff {table : Table} :
    write? table = none ↔ Value.IsPart .null (.table table) := by
  rw [← tableBlocks_eq_none_iff (blocksAgree (.table table)).2 "" false, write?]
  cases headBlock? "" false table <;> cases blocksBelow? "" table <;> simp

end Toml

/-! ## JSON -/

namespace Json

variable {spacing : Spacing}

theorem documentMembers_eq_error_iff {level : Nat} {members : List Value} :
    (∃ error, documentMembers spacing level members = .error error) ↔
      ∃ member ∈ members, ∃ error, documentText spacing level member = .error error := by
  induction members with
  | nil => simp [documentMembers]
  | cons member later induction =>
      simp only [documentMembers, List.mem_cons, exists_eq_or_imp, ← induction]
      cases documentText spacing level member <;>
        cases documentMembers spacing level later <;> simp [bind, Except.bind, pure, Except.pure]

theorem documentEntries_eq_error_iff {level : Nat} {entries : List (String × Value)} :
    (∃ error, documentEntries spacing level entries = .error error) ↔
      ∃ child ∈ Value.children (.table entries), ∃ error,
        documentText spacing level child = .error error := by
  rw [Value.children]
  induction entries with
  | nil => simp [documentEntries]
  | cons entry later induction =>
      simp only [documentEntries, List.map_cons, List.mem_cons, exists_eq_or_imp, ← induction]
      cases documentText spacing level entry.2 <;>
        cases documentEntries spacing level later <;> simp [bind, Except.bind, pure, Except.pure]

/-- A value that has no form at a level: an integer that is too wide, or a bracket too far in. -/
def IsBarred (level : Nat) : Value → Prop
  | .int value => fitsEither value = false
  | .list _ | .table _ => deepestBracket < level
  | _ => False

theorem map_eq_error_iff {ε α β : Type} {change : α → β} {result : Except ε α} :
    (∃ error, result.map change = .error error) ↔ ∃ error, result = .error error := by
  cases result <;> simp [Except.map]

theorem documentText_eq_error_iff (level : Nat) (value : Value) :
    (∃ error, documentText spacing level value = .error error) ↔
      ∃ depth part, Value.IsPartAt part depth value ∧ IsBarred (level + depth) part := by
  refine Value.iff_exists_isPartAt
    (fun level value => ∃ error, documentText spacing level value = .error error) ?_ level value
  intro level whole
  cases whole with
  | int value =>
      cases fits : fitsEither value <;> simp [documentText, IsBarred, fits, Value.children]
  | list members =>
      rw [documentText, IsBarred]
      by_cases deep : deepestBracket < level
      · simp [deep]
      · rw [if_neg deep, map_eq_error_iff, documentMembers_eq_error_iff, or_iff_right deep,
          Value.children]
  | table entries =>
      rw [documentText, IsBarred]
      by_cases deep : deepestBracket < level
      · simp [deep]
      · rw [if_neg deep, map_eq_error_iff, documentEntries_eq_error_iff, or_iff_right deep]
  | bool value => cases value <;> simp [documentText, IsBarred, Value.children]
  | _ => simp [documentText, IsBarred, Value.children]

/-- A table has no document if and only if an integer in it does not fit 64 bits or a bracket stands
inside too many others. -/
theorem write_eq_error_iff {table : Table} :
    (∃ error, write spacing table = .error error) ↔
      ∃ depth part, Value.IsPartAt part depth (.table table) ∧ IsBarred depth part := by
  rw [write, documentText_eq_error_iff]
  simp only [Nat.zero_add]

end Json

/-! ## YAML -/

namespace Yaml

theorem firstTimeAmong?_isSome_iff {members : List Value} :
    (firstTimeAmong? members).isSome ↔ ∃ member ∈ members, (firstTime? member).isSome := by
  induction members with
  | nil => simp [firstTimeAmong?]
  | cons member later induction =>
      simp [firstTimeAmong?, ← induction, Option.isSome_or]

theorem firstTimeBelow?_isSome_iff {entries : List (String × Value)} :
    (firstTimeBelow? entries).isSome ↔
      ∃ child ∈ Value.children (.table entries), (firstTime? child).isSome := by
  rw [Value.children]
  induction entries with
  | nil => simp [firstTimeBelow?]
  | cons entry later induction =>
      simp only [firstTimeBelow?, List.map_cons, List.mem_cons, exists_eq_or_imp, ← induction,
        Option.isSome_or, Bool.or_eq_true]

theorem firstTime?_isSome_iff {value : Value} :
    (firstTime? value).isSome ↔ ∃ time, Value.IsPart (.time time) value := by
  induction value using Value.induction with
  | step value induction =>
      have inside : (∃ time, Value.IsPart (.time time) value) ↔
          (∃ time, value = .time time) ∨ ∃ child ∈ value.children, (firstTime? child).isSome := by
        simp only [fun time => @Value.isPart_iff (.time time) value, exists_or]
        refine or_congr (by simp [eq_comm]) ?_
        rw [exists_comm]
        refine exists_congr fun child => ?_
        rw [exists_and_left]
        exact and_congr_right fun member => (induction child member).symm
      rw [inside]
      cases value with
      | list members => simp [firstTime?, firstTimeAmong?_isSome_iff, Value.children]
      | table entries => simp [firstTime?, firstTimeBelow?_isSome_iff]
      | _ => simp [firstTime?, Value.children]

/-- A table has no document if and only if a time without a date stands in it. -/
theorem write_eq_error_iff {table : Table} :
    (∃ time, write table = .error time) ↔ ∃ time, Value.IsPart (.time time) (.table table) := by
  rw [← firstTime?_isSome_iff]
  cases found : firstTime? (.table table) <;> cases table <;> simp [write, found]

end Yaml

end Stencil
