import Mathlib.Data.List.DropRight
import Stencil.Json.Read

/-!
Arrays of strings in JSON. Whatever follows an opening bracket is read as a list. An array of
strings is read as just these texts, with any blanks between its parts and however the characters
are escaped.
-/

namespace Stencil.Json

open Toml (hexNumber?)

/-! ## Blanks -/

theorem skipBlanks_append {blanks : List Char} (blank : ∀ c ∈ blanks, isBlank c = true)
    (rest : List Char) : skipBlanks (blanks ++ rest) = skipBlanks rest :=
  List.dropWhile_append_of_pos blank

theorem skipBlanks_cons {c : Char} (filled : isBlank c = false) (rest : List Char) :
    skipBlanks (c :: rest) = c :: rest :=
  List.dropWhile_cons_of_neg (by simp [filled])

theorem skipBlanks_skipBlanks (text : List Char) :
    skipBlanks (skipBlanks text) = skipBlanks text :=
  List.dropWhile_idempotent isBlank text

theorem value?_skipBlanks (limit level : Nat) (text : List Char) :
    value? limit level (skipBlanks text) = value? limit level text := by
  cases limit with
  | zero => rw [value?, value?]
  | succ limit => rw [value?, value?, skipBlanks_skipBlanks]

theorem members?_skipBlanks (limit level : Nat) (text : List Char) :
    members? limit level (skipBlanks text) = members? limit level text := by
  cases limit with
  | zero => rw [members?, members?]
  | succ limit => rw [members?, members?, value?_skipBlanks]

/-! ## What follows an opening bracket -/

section Bracket

variable (limit level : Nat) {rest after : List Char}

theorem value?_closed (closes : skipBlanks rest = ']' :: after) :
    value? (limit + 1) (level + 1) ('[' :: rest) = some (.list [], after) := by
  have opens : skipBlanks ('[' :: rest) = '[' :: rest := rfl
  rw [value?, opens]
  simp only [Nat.add_one_ne_zero, beq_iff_eq, if_false, closes]

theorem value?_open (stays : ∀ after, skipBlanks rest ≠ ']' :: after) :
    value? (limit + 1) (level + 1) ('[' :: rest) =
      (members? limit level (skipBlanks rest)).map fun read => (.list read.1, read.2) := by
  have opens : skipBlanks ('[' :: rest) = '[' :: rest := rfl
  rw [value?, opens]
  simp only [Nat.add_one_ne_zero, beq_iff_eq, if_false, Nat.add_sub_cancel]
  cases members? limit level (skipBlanks rest) <;> rfl

theorem exists_list_of_value? {value : Value}
    (found : value? (limit + 1) (level + 1) ('[' :: rest) = some (value, after)) :
    ∃ members, value = .list members := by
  by_cases closed : ∃ after, skipBlanks rest = ']' :: after
  · rcases closed with ⟨_, closes⟩
    rw [value?_closed limit level closes] at found
    cases found
    exact ⟨[], rfl⟩
  · rw [value?_open limit level (not_exists.mp closed)] at found
    rcases Option.map_eq_some_iff.mp found with ⟨⟨members, _⟩, _, same⟩
    cases same
    exact ⟨members, rfl⟩

end Bracket

/-- Whatever is read from an opening bracket on is a list. -/
theorem exists_list_of_read? {text : String} {rest : List Char} {value : Value}
    (opens : text.toList = '[' :: rest) (found : read? text = some value) :
    ∃ members, value = .list members := by
  have nested : deepestLevel = 1023 + 1 := rfl
  rw [read?] at found
  simp only [opens, nested] at found
  split at found
  · rename_i given after outcome
    split at found
    · cases found
      exact exists_list_of_value? _ _ outcome
    · cases found
  · cases found

/-! ## Strings as they are written -/

/-- The characters write one character between quotes. -/
inductive SpellsCharacter : Char → List Char → Prop where
  | plain {c : Char} (visible : 0x20 ≤ c.toNat) (noQuote : c ≠ '"') (noMark : c ≠ '\\') :
      SpellsCharacter c [c]
  | letter {c mark : Char} (stands : simpleEscape? mark = some c) : SpellsCharacter c ['\\', mark]
  | unit {digits : List Char} {unit : Nat} (four : digits.length = 4)
      (number : hexNumber? digits = some unit) (single : unit < 0xD800 ∨ 0xDFFF < unit) :
      SpellsCharacter (Char.ofNat unit) ('\\' :: 'u' :: digits)
  | pair {highDigits lowDigits : List Char} {high low : Nat} (fourHigh : highDigits.length = 4)
      (highNumber : hexNumber? highDigits = some high) (isHigh : 0xD800 ≤ high ∧ high ≤ 0xDBFF)
      (fourLow : lowDigits.length = 4) (lowNumber : hexNumber? lowDigits = some low)
      (isLow : 0xDC00 ≤ low ∧ low ≤ 0xDFFF) :
      SpellsCharacter (Char.ofNat (0x10000 + (high - 0xD800) * 0x400 + (low - 0xDC00)))
        ('\\' :: 'u' :: highDigits ++ '\\' :: 'u' :: lowDigits)

/-- The characters write a text between quotes. -/
inductive SpellsText : List Char → List Char → Prop where
  | nil : SpellsText [] []
  | cons {c : Char} {first contents spelled : List Char} (head : SpellsCharacter c first)
      (later : SpellsText contents spelled) : SpellsText (c :: contents) (first ++ spelled)

/-- Whether a character stands for itself between quotes. -/
def isPlain (c : Char) : Bool := 0x20 ≤ c.toNat && c != '"' && c != '\\'

theorem spellsText_plain {contents : List Char} (plain : contents.all isPlain = true) :
    SpellsText contents contents := by
  induction contents with
  | nil => exact .nil
  | cons c later induction =>
      rw [List.all_cons, Bool.and_eq_true] at plain
      rcases plain with ⟨first, others⟩
      simp only [isPlain, Bool.and_eq_true, decide_eq_true_eq, bne_iff_ne, ne_eq] at first
      exact .cons (.plain first.1.1 first.1.2 first.2) (induction others)

theorem stringAfter?_skip (taken rest : List Char) :
    stringAfter? taken.length (taken ++ rest) = stringAfter? 0 rest := by
  induction taken with
  | nil => rfl
  | cons c taken induction =>
      rw [List.length_cons, List.cons_append, stringAfter?]
      exact induction

theorem codeUnit?_append {digits : List Char} (four : digits.length = 4) (rest : List Char) :
    codeUnit? (digits ++ rest) = hexNumber? digits := by
  have enough : ¬ (digits ++ rest).length < 4 := by
    rw [List.length_append]
    omega
  rw [codeUnit?, if_neg enough, ← four, List.take_left]

/-- An escape is read as the character that it stands for, whatever follows. -/
theorem stringAfter?_escape {c : Char} (written rest : List Char)
    (stands : escape? (written ++ rest) = some (c, written.length)) :
    stringAfter? 0 ('\\' :: written ++ rest) =
      (stringAfter? 0 rest).map fun read => (c :: read.1, read.2) := by
  rw [List.cons_append, stringAfter?]
  simp only [stands, stringAfter?_skip, Option.bind_eq_bind, Option.bind_some]
  cases stringAfter? 0 rest <;> rfl

theorem stringAfter?_character {c : Char} {spelled : List Char} (head : SpellsCharacter c spelled)
    (rest : List Char) :
    stringAfter? 0 (spelled ++ rest) =
      (stringAfter? 0 rest).map fun read => (c :: read.1, read.2) := by
  cases head with
  | plain visible noQuote noMark =>
      have printed : ¬ c.toNat < 0x20 := by omega
      rw [List.singleton_append, stringAfter?]
      simp only [beq_iff_eq, noQuote, noMark, printed, if_false]
      cases stringAfter? 0 rest <;> rfl
  | letter stands =>
      rename_i mark
      apply stringAfter?_escape [mark]
      have noUnit : mark ≠ 'u' := by
        intro same
        subst mark
        cases stands
      rw [List.singleton_append, escape?, stands]
      · rfl
      · exact noUnit
  | unit four number single =>
      rename_i digits unit
      apply stringAfter?_escape ('u' :: digits)
      have inPlane : (decide (unit < 0xD800) || decide (0xDFFF < unit)) = true := by
        simpa using single
      rw [List.cons_append, escape?, codeUnit?_append four, number, List.length_cons, four]
      simp only [Option.bind_eq_bind, Option.bind_some, inPlane, if_true]
      rfl
  | pair fourHigh highNumber isHigh fourLow lowNumber isLow =>
      rename_i highDigits lowDigits high low
      apply stringAfter?_escape ('u' :: highDigits ++ '\\' :: 'u' :: lowDigits)
      have offPlane : (decide (high < 0xD800) || decide (0xDFFF < high)) = false := by
        simp
        omega
      have notLow : ¬ 0xDBFF < high := by omega
      have lowUnit : (decide (low < 0xDC00) || decide (0xDFFF < low)) = false := by
        simp
        omega
      have behind (later : List Char) : (highDigits ++ later).drop 4 = later := by
        rw [← fourHigh, List.drop_left]
      rw [List.cons_append, List.cons_append, List.append_assoc, escape?,
        codeUnit?_append fourHigh, highNumber]
      simp only [Option.bind_eq_bind, Option.bind_some, offPlane, notLow, behind,
        List.cons_append, codeUnit?_append fourLow, lowNumber, lowUnit, List.length_cons,
        List.length_append, fourHigh, fourLow]
      rfl

theorem stringAfter?_text {contents spelled : List Char} (whole : SpellsText contents spelled)
    (rest : List Char) : stringAfter? 0 (spelled ++ '"' :: rest) = some (contents, rest) := by
  induction whole with
  | nil => rfl
  | cons head later induction =>
      rw [List.append_assoc, stringAfter?_character head, induction, Option.map_some]

/-! ## Arrays as they are written -/

/-- The characters write a text in quotes, with blanks around. -/
def SpellsMember (text : String) (spelled : List Char) : Prop :=
  ∃ before contents after, (∀ c ∈ before, isBlank c = true) ∧ SpellsText text.toList contents ∧
    (∀ c ∈ after, isBlank c = true) ∧ spelled = before ++ '"' :: contents ++ '"' :: after

/-- The characters write one or more texts in quotes, with commas between them. -/
inductive SpellsMembers : List String → List Char → Prop where
  | last {text : String} {spelled : List Char} (member : SpellsMember text spelled) :
      SpellsMembers [text] spelled
  | cons {text : String} {texts : List String} {first spelled : List Char}
      (member : SpellsMember text first) (later : SpellsMembers texts spelled) :
      SpellsMembers (text :: texts) (first ++ ',' :: spelled)

/-- The text is a JSON array of the strings. -/
inductive SpellsArray : List String → String → Prop where
  | empty {blanks : List Char} (blank : ∀ c ∈ blanks, isBlank c = true) :
      SpellsArray [] (.ofList ('[' :: blanks ++ [']']))
  | filled {texts : List String} {spelled : List Char} (members : SpellsMembers texts spelled) :
      SpellsArray texts (.ofList ('[' :: spelled ++ [']']))

theorem skipBlanks_member {text : String} {spelled : List Char}
    (member : SpellsMember text spelled) (rest : List Char) :
    ∃ contents after, SpellsText text.toList contents ∧
      (∀ c ∈ after, isBlank c = true) ∧
      skipBlanks (spelled ++ rest) = '"' :: (contents ++ '"' :: (after ++ rest)) := by
  rcases member with ⟨before, contents, after, blank, whole, blankAfter, rfl⟩
  refine ⟨contents, after, whole, blankAfter, ?_⟩
  rw [List.append_assoc, List.append_assoc, skipBlanks_append blank, List.cons_append,
    skipBlanks_cons (by rfl), List.cons_append]

theorem value?_member {text : String} {spelled : List Char} (member : SpellsMember text spelled)
    (limit level : Nat) (rest : List Char) :
    ∃ after, (∀ c ∈ after, isBlank c = true) ∧
      value? (limit + 1) level (spelled ++ rest) = some (.text text, after ++ rest) := by
  rcases skipBlanks_member member rest with ⟨contents, after, whole, blankAfter, opens⟩
  refine ⟨after, blankAfter, ?_⟩
  rw [value?, opens]
  simp only [stringAfter?_text whole, Option.bind_eq_bind, Option.bind_some, String.ofList_toList]
  rfl

/-- Members up to a closing bracket are read if the limit counts them and one more. -/
theorem members?_members {texts : List String} {spelled : List Char}
    (members : SpellsMembers texts spelled) {limit : Nat} (enough : texts.length < limit)
    (level : Nat) (rest : List Char) :
    members? limit level (spelled ++ ']' :: rest) = some (texts.map .text, rest) := by
  induction members generalizing limit with
  | last member =>
      rw [List.length_singleton] at enough
      have counted : ∃ more, limit = more + 2 := ⟨limit - 2, by omega⟩
      rcases counted with ⟨more, rfl⟩
      rcases value?_member member more level (']' :: rest) with ⟨after, blank, found⟩
      rw [members?, found]
      simp only [Option.bind_eq_bind, Option.bind_some, skipBlanks_append blank]
      rfl
  | cons member later induction =>
      rename_i text texts first spelled
      rw [List.length_cons] at enough
      have counted : ∃ more, limit = more + 2 := ⟨limit - 2, by omega⟩
      rcases counted with ⟨more, rfl⟩
      rcases value?_member member more level (',' :: (spelled ++ ']' :: rest)) with
        ⟨after, blank, found⟩
      rw [List.append_assoc, List.cons_append, members?, found]
      have others : members? (more + 1) level (spelled ++ ']' :: rest) =
          some (texts.map .text, rest) := induction (by omega)
      simp only [Option.bind_eq_bind, Option.bind_some, skipBlanks_append blank,
        skipBlanks_cons (c := ',') rfl, others]
      rfl

theorem length_le_of_spellsMembers {texts : List String} {spelled : List Char}
    (members : SpellsMembers texts spelled) : texts.length ≤ spelled.length := by
  induction members with
  | last member =>
      rcases member with ⟨before, contents, after, _, _, _, rfl⟩
      simp
      omega
  | cons member later induction =>
      simp only [List.length_cons, List.length_append]
      omega

theorem exists_skipBlanks_members {texts : List String} {spelled : List Char}
    (members : SpellsMembers texts spelled) (rest : List Char) :
    ∃ inside, skipBlanks (spelled ++ rest) = '"' :: inside := by
  cases members with
  | last member =>
      rcases skipBlanks_member member rest with ⟨_, _, _, _, opens⟩
      exact ⟨_, opens⟩
  | cons member later =>
      rw [List.append_assoc]
      rcases skipBlanks_member member _ with ⟨_, _, _, _, opens⟩
      exact ⟨_, opens⟩

/-- An array of strings is read as these texts. -/
theorem read?_array {texts : List String} {text : String} (array : SpellsArray texts text) :
    read? text = some (.list (texts.map .text)) := by
  -- An array of strings takes one of the levels that there are.
  have nested : deepestLevel = 1023 + 1 := rfl
  cases array with
  | empty blank =>
      rename_i blanks
      have closes : skipBlanks (blanks ++ [']']) = [']'] := skipBlanks_append blank [']']
      simp only [read?, nested, String.toList_ofList, List.cons_append, value?_closed _ _ closes]
      rfl
  | filled members =>
      rename_i spelled
      have counted := length_le_of_spellsMembers members
      rcases exists_skipBlanks_members members [']'] with ⟨inside, opens⟩
      have found : members? ('[' :: (spelled ++ [']'])).length 1023 ('"' :: inside) =
          some (texts.map .text, []) := by
        rw [← opens, members?_skipBlanks]
        apply members?_members members
        simp
        omega
      have outcome : value? (('[' :: (spelled ++ [']'])).length + 1) deepestLevel
          ('[' :: (spelled ++ [']'])) = some (.list (texts.map .text), []) := by
        have stays : ∀ after, skipBlanks (spelled ++ [']']) ≠ ']' :: after := by
          intro after closes
          rw [opens] at closes
          cases closes
        rw [nested, value?_open _ _ stays, opens, found, Option.map_some]
      simp only [read?, String.toList_ofList, List.cons_append, outcome]
      rfl

theorem SpellsArray.brackets {texts : List String} {text : String}
    (array : SpellsArray texts text) : ∃ inside, text.toList = '[' :: inside ++ [']'] := by
  cases array with
  | empty _ => exact ⟨_, String.toList_ofList⟩
  | filled _ => exact ⟨_, String.toList_ofList⟩

end Stencil.Json
