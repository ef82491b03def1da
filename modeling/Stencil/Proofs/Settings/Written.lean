import Stencil.Proofs.Number.Numeral
import Stencil.Proofs.Settings.Variables
import Stencil.Proofs.Text.Ascii
import Stencil.Settings.Validation

/-!
Options written as texts. The value of an option is read back from its textual form, unless the
text has the form of another value. Validation takes the one and refuses the other.
-/

namespace Stencil.Settings

/-! ## Values by their texts -/

theorem lower_of_digit {c : Char} (low : 0x30 ≤ c.toNat) (high : c.toNat ≤ 0x39) :
    c ≠ 'Σ' ∧ Character.lower c = [c] :=
  Character.IsAscii.of_codes
    (fun c => 0x30 ≤ c.toNat → c.toNat ≤ 0x39 → c ≠ 'Σ' ∧ Character.lower c = [c])
    (by decide) (Nat.lt_of_le_of_lt high (by decide)) low high

theorem truthWord?_eq_none {text : String}
    (other : lowerCase text ∉ ["true", "1", "false", "0"]) : truthWord? text = none := by
  simp only [List.mem_cons, List.not_mem_nil, or_false, not_or] at other
  rw [truthWord?]
  split
  · exact absurd ‹_› other.1
  · exact absurd ‹_› other.2.1
  · exact absurd ‹_› other.2.2.1
  · exact absurd ‹_› other.2.2.2
  · rfl

theorem truthWord?_toString {n : Nat} (large : 1 < n) : truthWord? (toString n) = none := by
  have small : lowerCase (toString n) = toString n := by
    apply lowerCase_of_small
    intro c member
    have bounds := bounds_of_mem_digitsOf member
    exact lower_of_digit bounds.1 bounds.2
  apply truthWord?_eq_none
  rw [small]
  intro member
  have digits {word : String} (same : toString n = word) : ∀ c ∈ word.toList, c.toNat ≤ 0x39 := by
    intro c member
    exact (bounds_of_mem_digitsOf (n := n) (by rw [digitsOf, same]; exact member)).2
  simp only [List.mem_cons, List.not_mem_nil, or_false] at member
  rcases member with isTrue | isOne | isFalse | isZero
  · exact absurd (digits isTrue 't' (.head _)) (by decide)
  · have equal : n = 1 := toString_injective isOne
    omega
  · exact absurd (digits isFalse 'f' (.head _)) (by decide)
  · have equal : n = 0 := toString_injective isZero
    omega

theorem truthWord?_of_bracket {text : String} {rest : List Char}
    (begins : text.toList = '[' :: rest) : truthWord? text = none := by
  rcases exists_lowerCase_eq begins (by decide) with ⟨later, equal⟩
  apply truthWord?_eq_none
  have bracket : Character.lower '[' = ['['] := by decide
  intro member
  simp only [List.mem_cons, List.not_mem_nil, or_false] at member
  rcases member with same | same | same | same
  all_goals
    rw [same, bracket] at equal
    exact absurd (List.cons.inj equal).1 (by decide)

theorem array?_eq_none {text : String} {c : Char} {rest : List Char}
    (begins : text.toList = c :: rest) (other : c ≠ '[') : array? text = none := by
  apply if_neg
  rw [Bool.and_eq_true, String.startsWith_string_iff, begins, not_and]
  intro opens
  exact absurd (List.cons_prefix_cons.mp opens).1.symm other

theorem parseText_of_truth {text : String} {truth : Bool} (word : truthWord? text = some truth) :
    parseText text = .bool truth := by
  rw [parseText, word]

theorem parseText_toString {n : Nat} (large : 1 < n) :
    parseText (toString n) =
      if Numeral.longestInteger < (digitsOf n).length then .text (toString n) else .int n := by
  rcases exists_digitsOf_cons n with ⟨c, rest, equal, bounds⟩
  have noArray : array? (toString n) = none := by
    apply array?_eq_none equal
    intro same
    subst c
    exact absurd bounds.2 (by decide)
  rw [parseText, truthWord?_toString large, Numeral.integer?_toString, noArray]
  by_cases long : Numeral.longestInteger < (digitsOf n).length <;> simp [long]

theorem parseText_array {texts : List String} {text : String}
    (array : Json.SpellsArray texts text) : parseText text = .list (texts.map .text) := by
  rcases array.brackets with ⟨inside, brackets⟩
  have found : array? text = some (.list (texts.map .text)) := by
    rw [array?, if_pos, Json.read?_array array]
    rw [Bool.and_eq_true, String.startsWith_string_iff, ← String.endsWith_toSlice,
      String.Slice.endsWith_string_iff]
    constructor
    · rw [brackets]
      exact List.prefix_append ['['] _
    · rw [String.copy_toSlice, brackets]
      exact List.suffix_append _ [']']
  rw [parseText, truthWord?_of_bracket brackets, Numeral.integer?_of_bracket brackets, found]

/-- What has the form of another value is no text. -/
theorem toText_parseText {text : String} (form : truthWord? text ≠ none ∨
    Numeral.integer? text ≠ none ∨ array? text ≠ none) :
    toText (parseText text) = .error .text := by
  rw [parseText]
  split
  · rfl
  · rfl
  · rename_i value _ _ array
    rcases exists_list_of_array? array with ⟨members, rfl⟩
    rfl
  · rename_i noTruth noInteger noArray
    rcases form with truth | integer | array
    · exact absurd noTruth truth
    · exact absurd noInteger integer
    · exact absurd noArray array

theorem integerOfNumeral_toString {n : Nat}
    (long : Numeral.longestInteger < (digitsOf n).length) :
    integerOfNumeral (toString n) = .error .tooLarge := by
  rcases exists_digitsOf_cons n with ⟨c, rest, equal, bounds⟩
  rw [equal] at long
  have more : rest ≠ [] := by
    intro empty
    rw [empty, List.length_singleton] at long
    exact absurd long (by decide)
  have noZero : c ≠ '0' := head_digitsOf_ne_zero equal more
  have digits : (c :: rest).all Toml.isDigit = true := by
    rw [List.all_eq_true, ← equal]
    intro c member
    have bounds := bounds_of_mem_digitsOf member
    rw [Toml.isDigit, Bool.and_eq_true, decide_eq_true_eq, decide_eq_true_eq]
    exact bounds
  have refused : plainInteger? (digitsOf n) = some (.error .tooLarge) := by
    rw [equal, plainInteger?]
    · rw [if_neg (by simp [digits]), if_neg (by simp [noZero])]
      exact if_pos long
    · intro after same
      rw [(List.cons.inj same).1] at bounds
      exact absurd bounds.1 (by decide)
  rw [integerOfNumeral, ← digitsOf, refused]

/-- A numeral with too many digits is no size. -/
theorem toSize_parseText {n : Nat} (least : Int)
    (long : Numeral.longestInteger < (digitsOf n).length) :
    toSize least (parseText (toString n)) = .error .tooLarge := by
  have large : 1 < n := by
    by_contra small
    rw [digitsOf_eq, Nat.toDigits_of_lt_base (by omega), List.length_singleton] at long
    exact absurd long (by decide)
  rw [parseText_toString large, if_pos long, toSize, toIntegerFrom, toInteger,
    integerOfNumeral_toString long]
  · rfl
  · intro absurdity
    cases absurdity

/-! ## What validation finds -/

theorem toSize_int {least whole : Int} (enough : least ≤ whole) :
    toSize least (.int whole) = .ok (some whole) := by
  have taken : toIntegerFrom least (.int whole) = .ok whole := if_pos enough
  rw [toSize, taken]
  · rfl
  · intro absurdity
    cases absurdity

theorem findings_checkTexts (position : Nat) (texts : List String) :
    (checkTexts position (texts.map .text)).findings = [] := by
  induction texts generalizing position with
  | nil => rfl
  | cons text later induction => exact induction (position + 1)

/-- A finding of an option as one of its section. -/
def under (name : String) (finding : Finding) : Finding :=
  { finding with place := name :: finding.place }

/-- What is found in an option that is the only one set. -/
def findingsOf {α : Type} (value : Value) (name : String) (read : Value → Except Problem α) :
    List Finding :=
  match read value with
  | .ok _ => []
  | .error problem => [⟨[name], problem, value⟩]

theorem findings_checkOption {α : Type} (given name : String) (value : Value) (default : α)
    (read : Value → Except Problem α) :
    (checkOption [(given, value)] name default read).findings =
      if given = name then findingsOf value name read else [] := by
  by_cases same : given = name
  · have found : Table.find? [(given, value)] name = some value := by
      simp [Table.find?, same]
    rw [checkOption, found, if_pos same, findingsOf]
    cases equal : read value <;> simp only [equal]
  · have missing : Table.find? [(given, value)] name = none := by
      simp [Table.find?, same]
    rw [checkOption, missing, if_neg same]

/-- The defaults pass, so with one option of the section set, only that option is looked at. -/
theorem findings_logging {name : String} (known : name ∈ loggingOptions) (value : Value) :
    (check .lenient (setAt value defaults ["logging", name])).findings =
      (checkLogging [(name, value)]).findings.map (under "logging") := by
  have parts : (check .lenient (setAt value defaults ["logging", name])).findings =
      ((checkLogging [(name, value)]).findings ++ []).map (under "logging") ++ [] ++ [] ++ [] := by
    simp only [loggingOptions, List.mem_cons, List.not_mem_nil, or_false] at known
    rcases known with rfl | rfl | rfl | rfl | rfl <;> rfl
  simpa only [List.append_nil] using parts

/-! ## Options -/

/-- An option together with a value that is valid for it. -/
inductive Setting where
  | level (value : LogLevel)
  | format (value : LogFormat)
  | file (value : String)
  | maxBytes (value : Nat) (positive : 1 ≤ value)
  | backupCount (value : Nat)
  | minify (value : Bool)
  | exclude (patterns : List String)
  | checkSyntax (value : Bool)

namespace Setting

/-- The section and the name of the option. -/
def path : Setting → List String
  | level _ => ["logging", "level"]
  | format _ => ["logging", "format"]
  | file _ => ["logging", "file"]
  | maxBytes _ _ => ["logging", "max_bytes"]
  | backupCount _ => ["logging", "backup_count"]
  | minify _ => ["compile", "minify"]
  | exclude _ => ["compile", "exclude"]
  | checkSyntax _ => ["emit", "check_syntax"]

/-- The variable for the option. -/
def variableName : Setting → String
  | level _ => "TYPEDHTML_LOGGING__LEVEL"
  | format _ => "TYPEDHTML_LOGGING__FORMAT"
  | file _ => "TYPEDHTML_LOGGING__FILE"
  | maxBytes _ _ => "TYPEDHTML_LOGGING__MAX_BYTES"
  | backupCount _ => "TYPEDHTML_LOGGING__BACKUP_COUNT"
  | minify _ => "TYPEDHTML_COMPILE__MINIFY"
  | exclude _ => "TYPEDHTML_COMPILE__EXCLUDE"
  | checkSyntax _ => "TYPEDHTML_EMIT__CHECK_SYNTAX"

def value : Setting → Value
  | level value => .text value.name
  | format value => .text value.name
  | file value => .text value
  | maxBytes value _ | backupCount value => .int value
  | minify value | checkSyntax value => .bool value
  | exclude patterns => .list (patterns.map .text)

/-- The defaults but for the option. -/
def typed : Setting → TypedSettings
  | level value => { logging := { level := value } }
  | format value => { logging := { format := value } }
  | file value => { logging := { file := value } }
  | maxBytes value _ => { logging := { maxBytes := some value } }
  | backupCount value => { logging := { backupCount := some value } }
  | minify value => { compile := { minify := value } }
  | exclude patterns => { compile := { exclude := patterns } }
  | checkSyntax value => { emit := { checkSyntax := value } }

/-- The text is a textual form of the value. -/
def IsWritten (setting : Setting) (text : String) : Prop :=
  match setting with
  | level value => text = value.name
  | format value => text = value.name
  | file value => text = value
  | maxBytes value _ | backupCount value => text = toString value
  | minify value | checkSyntax value => text = toString value
  | exclude patterns => Json.SpellsArray patterns text

/-- The value is read as another from its text: a file name with the form of a truth value, of an
integer or of an array, or a number with too many digits. -/
def IsMistaken : Setting → Prop
  | file value =>
      truthWord? value ≠ none ∨ Numeral.integer? value ≠ none ∨ array? value ≠ none
  | maxBytes value _ | backupCount value =>
      Numeral.longestInteger < (toString value).toList.length
  | _ => False

/-- A size that has the form of a truth value. -/
def IsTruthDigit : Setting → Prop
  | maxBytes value _ | backupCount value => value ≤ 1
  | _ => False

theorem variablePath?_eq (setting : Setting) :
    variablePath? variablePrefix setting.variableName = some setting.path := by
  cases setting
  all_goals
    rw [variableName, path]
    decide +kernel

variable {setting : Setting} {text : String}

theorem parseText_of_isWritten (written : setting.IsWritten text)
    (noDigit : ¬ setting.IsTruthDigit) (plain : ¬ setting.IsMistaken) :
    parseText text = setting.value := by
  cases setting with
  | level value | format value =>
      cases written
      apply parseText_of_plain
      · cases value <;> decide +kernel
      · cases value <;> decide +kernel
      · cases value <;> exact array?_eq_none rfl (by decide)
  | file value =>
      cases written
      simp only [IsMistaken, not_or, ne_eq, not_not] at plain
      exact parseText_of_plain plain.1 plain.2.1 plain.2.2
  | maxBytes value _ | backupCount value =>
      cases written
      have short : ¬ Numeral.longestInteger < (digitsOf value).length := plain
      rw [parseText_toString (Nat.lt_of_not_le noDigit), if_neg short]
      rfl
  | minify value | checkSyntax value =>
      cases written
      apply parseText_of_truth
      cases value <;> decide +kernel
  | exclude patterns => exact parseText_array written

/-! ### Validation -/

/-- Validation takes the value. -/
theorem findings_value (setting : Setting) :
    (check .lenient (setAt setting.value defaults setting.path)).findings = [] := by
  cases setting with
  | level value | format value => cases value <;> rfl
  | file value | minify value | checkSyntax value => rfl
  | maxBytes value positive =>
      have enough : (1 : Int) ≤ value := by omega
      rw [path, findings_logging (by decide)]
      simp only [checkLogging, findings_checkOption, findingsOf, Setting.value, toSize_int enough]
      rfl
  | backupCount value =>
      have enough : (0 : Int) ≤ value := by omega
      rw [path, findings_logging (by decide)]
      simp only [checkLogging, findings_checkOption, findingsOf, Setting.value, toSize_int enough]
      rfl
  | exclude patterns =>
      have fine := findings_checkTexts 0 patterns
      change (([] ++ (checkTexts 0 (patterns.map .text)).findings) ++ []).map (under "compile") ++
        [] ++ [] = []
      rw [fine]
      rfl

/-- The typed settings hold the value. -/
theorem read_value (setting : Setting) :
    TypedSettings.read (setAt setting.value defaults setting.path) = .ok setting.typed := by
  cases setting with
  | level value | format value => cases value <;> rfl
  | file value | minify value | checkSyntax value => rfl
  | maxBytes value positive =>
      have enough : (1 : Int) ≤ value := by omega
      change Except.ok (⟨⟨.info, .json, "", sizeFrom? 1 (.int value), none⟩, {}, {}⟩ :
        TypedSettings) = _
      rw [sizeFrom?, if_pos enough]
      rfl
  | backupCount value =>
      have enough : (0 : Int) ≤ value := by omega
      change Except.ok (⟨⟨.info, .json, "", none, sizeFrom? 0 (.int value)⟩, {}, {}⟩ :
        TypedSettings) = _
      rw [sizeFrom?, if_pos enough]
      rfl
  | exclude patterns =>
      have shown : (patterns.map Value.text).map Value.shown = patterns := by
        rw [List.map_map]
        exact List.map_id patterns
      change Except.ok (⟨{}, ⟨true, (patterns.map .text).map Value.shown⟩, {}⟩ : TypedSettings) = _
      rw [shown]
      rfl

/-- Validation refuses what the text is mistaken for. -/
theorem findings_of_isMistaken (written : setting.IsWritten text) (mistaken : setting.IsMistaken) :
    ∃ problem, (check .lenient (setAt (parseText text) defaults setting.path)).findings =
      [⟨setting.path, problem, parseText text⟩] := by
  cases setting with
  | file value =>
      cases written
      refine ⟨.text, ?_⟩
      rw [path, findings_logging (by decide)]
      simp only [checkLogging, findings_checkOption, findingsOf, toText_parseText mistaken]
      simp [under]
  | maxBytes value positive =>
      cases written
      refine ⟨.tooLarge, ?_⟩
      rw [path, findings_logging (by decide)]
      simp only [checkLogging, findings_checkOption, findingsOf, toSize_parseText 1 mistaken]
      simp [under]
  | backupCount value =>
      cases written
      refine ⟨.tooLarge, ?_⟩
      rw [path, findings_logging (by decide)]
      simp only [checkLogging, findings_checkOption, findingsOf, toSize_parseText 0 mistaken]
      simp [under]
  | level _ | format _ | minify _ | exclude _ | checkSyntax _ => exact mistaken.elim

end Setting

end Stencil.Settings
