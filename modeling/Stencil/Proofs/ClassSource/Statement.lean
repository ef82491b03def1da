import Mathlib.Data.List.Basic
import Stencil.ClassSource.Emit
import Stencil.Proofs.ClassSource.Layout
import Stencil.Proofs.Template.Identifier
import Stencil.Proofs.Text.Lines

/-!
Statements of generated source, each on a line of its own, and the reading of such a line. Only the
forms that generated source has are read.
-/

namespace Stencil.Source

/-- A name with its type. -/
structure Declaration where
  name : List Char
  type : List Char
deriving DecidableEq

inductive Statement where
  | note
  | futureImport
  | classOf (name : List Char)
  | slots (names : List (List Char))
  | declaration (declaration : Declaration)
  | constructor (parameters : List Declaration)
  | renderer
  | pass
  /-- The assignment of a value to a slot of the receiver. -/
  | store (slot value : List Char)
  /-- The assignment of a slot of the receiver to a name. -/
  | fetch (value slot : List Char)
  | result (literal : List Char)
deriving DecidableEq

/-! ## Words -/

/-- The word at the front of a text, with what is behind it. -/
def word? (text : List Char) : Option (List Char × List Char) :=
  let word := text.takeWhile Character.isWord
  if word.isEmpty then none else some (word, text.dropWhile Character.isWord)

/-- A text that is one word. -/
structure IsWord (text : List Char) : Prop where
  nonempty : text ≠ []
  words : ∀ c ∈ text, Character.isWord c = true

theorem isWord_of_all {text : List Char}
    (checked : (!text.isEmpty && text.all Character.isWord) = true) : IsWord text := by
  rw [Bool.and_eq_true, List.all_eq_true] at checked
  exact ⟨by simpa using checked.1, checked.2⟩

theorem word?_append {word : List Char} (isWord : IsWord word) {rest : List Char}
    (ends : rest.head?.any Character.isWord = false) :
    word? (word ++ rest) = some (word, rest) := by
  have taken : (word ++ rest).takeWhile Character.isWord = word := by
    rw [List.takeWhile_append_of_pos isWord.words]
    cases rest with
    | nil => simp
    | cons c rest => simp_all
  have left : (word ++ rest).dropWhile Character.isWord = rest := by
    rw [List.dropWhile_append_of_pos isWord.words]
    cases rest with
    | nil => simp
    | cons c rest => simp_all
  simp [word?, taken, left, isWord.nonempty]

theorem word?_self {word : List Char} (isWord : IsWord word) : word? word = some (word, []) := by
  have ends : ([] : List Char).head?.any Character.isWord = false := rfl
  have alone := word?_append isWord ends
  rwa [List.append_nil] at alone

/-! ## Parts of lines -/

def declaration? (text : List Char) : Option Declaration :=
  match word? text with
  | some (name, ':' :: ' ' :: rest) =>
      match word? rest with
      | some (type, []) => some ⟨name, type⟩
      | _ => none
  | _ => none

/-- The parameters behind the receiver, each of them after a comma and a blank. -/
def parameters? (text : List Char) : Option (List Declaration) :=
  match splitAt ',' text with
  | [] :: later => later.mapM fun part =>
      match part with
      | ' ' :: rest => declaration? rest
      | _ => none
  | _ => none

def quotedWord? (text : List Char) : Option (List Char) :=
  match text with
  | '"' :: rest =>
      match word? rest with
      | some (word, ['"']) => some word
      | _ => none
  | _ => none

def spacedWord? (text : List Char) : Option (List Char) :=
  match text with
  | ' ' :: rest => quotedWord? rest
  | _ => none

/-- The names of a tuple of texts. A single one has a comma behind it. -/
def slotNames? (text : List Char) : Option (List (List Char)) :=
  match splitAt ',' text with
  | [] => none
  | first :: later =>
      if later = [] then if first = [] then some [] else none
      else if later = [[]] then (quotedWord? first).map fun name => [name]
      else ((' ' :: first) :: later).mapM spacedWord?

/-- The text between an opening and a closing. -/
def between? (opening closing text : List Char) : Option (List Char) :=
  (text.dropPrefix? opening).bind fun rest => rest.dropSuffix? closing

/-! ## Statements -/

def noteText : List Char := "\"\"\"Generated by typedhtml. Do not edit.\"\"\"".toList

/-- A statement that begins with a name. -/
def assignment? (name rest : List Char) : Option Statement :=
  match rest with
  | ':' :: ' ' :: rest =>
      match word? rest with
      | some (type, []) => some (.declaration ⟨name, type⟩)
      | _ => none
  | _ =>
      match (rest.dropPrefix? " = self.".toList).bind word? with
      | some (slot, []) => some (.fetch name slot)
      | _ => none

/-- A statement that begins with the receiver. -/
def receiver? (rest : List Char) : Option Statement :=
  match rest with
  | '.' :: rest =>
      match word? rest with
      | some (slot, ' ' :: '=' :: ' ' :: rest) =>
          match word? rest with
          | some (value, []) => some (.store slot value)
          | _ => none
      | _ => none
  | _ => none

def definition? (rest : List Char) : Option Statement :=
  if rest = " render(self) -> str:".toList then some .renderer
  else ((between? " __init__(self".toList ") -> None:".toList rest).bind parameters?).map
    .constructor

def class? (rest : List Char) : Option Statement :=
  match rest with
  | ' ' :: rest =>
      match word? rest with
      | some (name, [':']) => some (.classOf name)
      | _ => none
  | _ => none

def result? (rest : List Char) : Option Statement :=
  match rest with
  | ' ' :: literal => some (.result literal)
  | _ => none

/-- The statement that begins with a word. -/
def statementOf? (word rest : List Char) : Option Statement :=
  if word = "from".toList then
    if rest = " __future__ import annotations".toList then some .futureImport else none
  else if word = "class".toList then class? rest
  else if word = "__slots__".toList then
    ((between? " = (".toList [')'] rest).bind slotNames?).map .slots
  else if word = "def".toList then definition? rest
  else if word = "pass".toList then if rest = [] then some .pass else none
  else if word = "self".toList then receiver? rest
  else if word = "return".toList then result? rest
  else assignment? word rest

/-- The statement of a line without its margin. -/
def statement? (text : List Char) : Option Statement :=
  if text = noteText then some .note
  else (word? text).bind fun (word, rest) => statementOf? word rest

example : statement? "class Page:".toList = some (.classOf "Page".toList) := by decide +kernel

example : statement? "def __init__(self, a: b, c: d) -> None:".toList =
    some (.constructor [⟨['a'], ['b']⟩, ⟨['c'], ['d']⟩]) := by decide +kernel

example : statement? "__slots__ = (\"a\", \"c\")".toList = some (.slots [['a'], ['c']]) := by
  decide +kernel

/-! ## Lines as they are written -/

theorem statement?_append {word : List Char} (isWord : IsWord word) {rest : List Char}
    (ends : rest.head?.any Character.isWord = false) :
    statement? (word ++ rest) = statementOf? word rest := by
  have noNote : word ++ rest ≠ noteText := by
    intro equal
    rcases List.exists_cons_of_ne_nil isWord.nonempty with ⟨c, others, rfl⟩
    have first : c = '"' := (List.cons.inj equal).1
    exact absurd (isWord.words c List.mem_cons_self) (by rw [first]; decide)
  rw [statement?, if_neg noNote, word?_append isWord ends]
  rfl

variable {name : List Char}

theorem isWord_of_isFit (fit : Identifier.IsFit name) : IsWord name :=
  ⟨fit.nonempty, fit.words⟩

/-- A fit name is no word that begins a statement of another kind. -/
theorem statementOf?_of_isFit (fit : Identifier.IsFit name) (rest : List Char) :
    statementOf? name rest = assignment? name rest := by
  have different (word : List Char) (taken : Identifier.isTaken word = true) : name ≠ word := by
    intro equal
    rw [equal] at fit
    simp [fit.free] at taken
  rw [statementOf?, if_neg (different _ (by decide +kernel)),
    if_neg (different _ (by decide +kernel)), if_neg (different _ (by decide +kernel)),
    if_neg (different _ (by decide +kernel)), if_neg (different _ (by decide +kernel)),
    if_neg (different _ (by decide +kernel)), if_neg (different _ (by decide +kernel))]

theorem ends_cons {c : Char} (noWord : Character.isWord c = false) (rest : List Char) :
    (c :: rest).head?.any Character.isWord = false := noWord

theorem statement?_class (isWord : IsWord name) :
    statement? ("class ".toList ++ name ++ [':']) = some (.classOf name) := by
  have begun : IsWord "class".toList := isWord_of_all (by decide)
  have named : word? (name ++ [':']) = some (name, [':']) := word?_append isWord (by decide)
  have split : "class ".toList ++ name ++ [':'] = "class".toList ++ ' ' :: (name ++ [':']) := rfl
  rw [split, statement?_append begun (ends_cons (by decide) _)]
  simp [statementOf?, class?, named]

theorem statement?_pass : statement? "pass".toList = some .pass := by decide +kernel

theorem statement?_renderer : statement? "def render(self) -> str:".toList = some .renderer := by
  decide +kernel

theorem statement?_result (literal : List Char) :
    statement? ("return ".toList ++ literal) = some (.result literal) := by
  have begun : IsWord "return".toList := isWord_of_all (by decide)
  have split : "return ".toList ++ literal = "return".toList ++ ' ' :: literal := rfl
  rw [split, statement?_append begun (ends_cons (by decide) _)]
  simp [statementOf?, result?]

theorem statement?_store {value : List Char} (isName : IsWord name) (isValue : IsWord value) :
    statement? ("self.".toList ++ name ++ " = ".toList ++ value) =
      some (.store name value) := by
  have begun : IsWord "self".toList := isWord_of_all (by decide)
  have slot : word? (name ++ ' ' :: '=' :: ' ' :: value) =
      some (name, ' ' :: '=' :: ' ' :: value) :=
    word?_append isName (ends_cons (by decide) _)
  have split : "self.".toList ++ name ++ " = ".toList ++ value =
      "self".toList ++ '.' :: (name ++ ' ' :: '=' :: ' ' :: value) := by simp
  rw [split, statement?_append begun (ends_cons (by decide) _)]
  simp [statementOf?, receiver?, slot, word?_self isValue]

theorem statement?_fetch (fit : Identifier.IsFit name) {slot : List Char} (isSlot : IsWord slot) :
    statement? (name ++ " = self.".toList ++ slot) = some (.fetch name slot) := by
  have split : name ++ " = self.".toList ++ slot = name ++ ' ' :: ("= self.".toList ++ slot) := by
    simp
  have rest : (' ' :: ("= self.".toList ++ slot)).dropPrefix? " = self.".toList = some slot :=
    List.dropPrefix?_append_of_beq slot BEq.rfl
  rw [split, statement?_append (isWord_of_isFit fit) (ends_cons (by decide) _),
    statementOf?_of_isFit fit, assignment?]
  · rw [rest, Option.bind_some, word?_self isSlot]
  · intro other equal
    exact absurd (List.cons.inj equal).1 (by decide)

theorem statement?_declaration (fit : Identifier.IsFit name) {type : List Char}
    (isType : IsWord type) :
    statement? (name ++ ": ".toList ++ type) = some (.declaration ⟨name, type⟩) := by
  have split : name ++ ": ".toList ++ type = name ++ ':' :: ' ' :: type := by simp
  rw [split, statement?_append (isWord_of_isFit fit) (ends_cons (by decide) _),
    statementOf?_of_isFit fit]
  simp [assignment?, word?_self isType]

/-! ## Lists of words -/

/-- What is written item by item is read item by item. -/
theorem mapM_map_eq_some {α β γ : Type} {read : β → Option γ} {write : α → β} {value : α → γ}
    {items : List α} (back : ∀ item ∈ items, read (write item) = some (value item)) :
    (items.map write).mapM read = some (items.map value) := by
  induction items with
  | nil => rfl
  | cons item items induction =>
      have others := induction fun other member => back other (List.mem_cons_of_mem _ member)
      simp [back item List.mem_cons_self, others]

theorem mapM_map_eq_self {α β : Type} {read : β → Option α} {write : α → β} {items : List α}
    (back : ∀ item ∈ items, read (write item) = some item) :
    (items.map write).mapM read = some items := by
  rw [mapM_map_eq_some back, List.map_id']

/-- No word holds a character that is no word character. -/
theorem IsWord.notMem {word : List Char} (isWord : IsWord word) {c : Char}
    (noWord : Character.isWord c = false) : c ∉ word := by
  intro member
  rw [isWord.words c member] at noWord
  cases noWord

theorem IsWord.isOneLine {word : List Char} (isWord : IsWord word) : IsOneLine word :=
  .of_words isWord.words

namespace Declaration

/-- A declaration as it is written. -/
def text (declaration : Declaration) : List Char :=
  declaration.name ++ ": ".toList ++ declaration.type

/-- A declaration of a name that needs no quoting, with a word for its type. -/
structure IsValid (declaration : Declaration) : Prop where
  fit : Identifier.IsFit declaration.name
  type : IsWord declaration.type

variable {declaration : Declaration}

theorem IsValid.notMem (valid : declaration.IsValid) {c : Char}
    (noWord : Character.isWord c = false) (different : c ∉ ": ".toList) :
    c ∉ declaration.text := by
  have inName := (isWord_of_isFit valid.fit).notMem noWord
  have inType := valid.type.notMem noWord
  simp only [text, List.mem_append, not_or]
  exact ⟨⟨inName, different⟩, inType⟩

theorem IsValid.isOneLine (valid : declaration.IsValid) : IsOneLine declaration.text :=
  ((isWord_of_isFit valid.fit).isOneLine.append (by decide)).append valid.type.isOneLine

theorem IsValid.declaration?_text (valid : declaration.IsValid) :
    declaration? declaration.text = some declaration := by
  have isName := isWord_of_isFit valid.fit
  have split : declaration.text = declaration.name ++ ':' :: ' ' :: declaration.type := by
    simp [text]
  rw [split, declaration?, word?_append isName (ends_cons (by decide) _)]
  simp [word?_self valid.type]

end Declaration

theorem parameters?_written {parameters : List Declaration}
    (valid : ∀ parameter ∈ parameters, parameter.IsValid) :
    parameters? (parameters.flatMap fun parameter => ", ".toList ++ parameter.text) =
      some parameters := by
  have clean : ∀ piece ∈ [] :: parameters.map fun parameter => ' ' :: parameter.text,
      ',' ∉ piece := by
    intro piece member
    rcases List.mem_cons.mp member with rfl | member
    · exact List.not_mem_nil
    · rcases List.mem_map.mp member with ⟨parameter, listed, rfl⟩
      have inText : ',' ∉ parameter.text := (valid parameter listed).notMem (by decide) (by decide)
      simp [inText]
  have parts : splitAt ',' (parameters.flatMap fun parameter => ", ".toList ++ parameter.text) =
      [] :: parameters.map fun parameter => ' ' :: parameter.text := by
    simpa [List.flatMap_map] using splitAt_flatMap [] _ clean
  rw [parameters?, parts]
  exact mapM_map_eq_self fun parameter member => (valid parameter member).declaration?_text

theorem between?_append (opening text closing : List Char) :
    between? opening closing (opening ++ (text ++ closing)) = some text := by
  rw [between?, List.dropPrefix?_append_of_beq _ BEq.rfl, Option.bind_some]
  exact List.dropSuffix?_eq_some_iff.mpr ⟨closing, rfl, BEq.rfl⟩

theorem statement?_constructor {parameters : List Declaration}
    (valid : ∀ parameter ∈ parameters, parameter.IsValid) :
    statement? ("def __init__(self".toList ++
        ((parameters.flatMap fun parameter => ", ".toList ++ parameter.text) ++
          ") -> None:".toList)) = some (.constructor parameters) := by
  have begun : IsWord "def".toList := isWord_of_all (by decide)
  have split (rest : List Char) : "def __init__(self".toList ++ rest =
      "def".toList ++ (" __init__(self".toList ++ rest) := by simp
  have chosen (rest : List Char) : statementOf? "def".toList rest = definition? rest := by
    simp [statementOf?]
  have noRenderer (rest : List Char) :
      " __init__(self".toList ++ rest ≠ " render(self) -> str:".toList := by simp
  have ends (rest : List Char) :
      (" __init__(self".toList ++ rest).head?.any Character.isWord = false :=
    ends_cons (by decide) _
  rw [split, statement?_append begun (ends _), chosen, definition?, if_neg (noRenderer _),
    between?_append, Option.bind_some, parameters?_written valid]
  rfl

/-! ## Tuples of texts -/

def quotedWord (name : List Char) : List Char := '"' :: (name ++ ['"'])

theorem quotedWord?_quotedWord (isWord : IsWord name) :
    quotedWord? (quotedWord name) = some name := by
  rw [quotedWord, quotedWord?, word?_append isWord (ends_cons (by decide) _)]
  rfl

theorem notMem_quotedWord (isWord : IsWord name) {c : Char} (noWord : Character.isWord c = false)
    (noQuote : c ≠ '"') : c ∉ quotedWord name := by
  have inName := isWord.notMem noWord
  simp [quotedWord, inName, noQuote]

/-- The names of a tuple as they are written between its parentheses. -/
def tupleText : List (List Char) → List Char
  | [] => []
  | [only] => quotedWord only ++ [',']
  | first :: later => quotedWord first ++ later.flatMap fun name => ", ".toList ++ quotedWord name

theorem slotNames?_tupleText {names : List (List Char)} (words : ∀ name ∈ names, IsWord name) :
    slotNames? (tupleText names) = some names := by
  have noComma (name : List Char) (member : name ∈ names) : ',' ∉ quotedWord name :=
    notMem_quotedWord (words name member) (by decide) (by decide)
  match names with
  | [] => rfl
  | [only] =>
      have parts : splitAt ',' (tupleText [only]) = [quotedWord only, []] :=
        splitAt_append (noComma only List.mem_cons_self) []
      rw [slotNames?, parts]
      simp [quotedWord?_quotedWord (words only List.mem_cons_self)]
  | first :: second :: later =>
      have clean : ∀ piece ∈ quotedWord first :: (second :: later).map fun name =>
          ' ' :: quotedWord name, ',' ∉ piece := by
        intro piece member
        rcases List.mem_cons.mp member with rfl | member
        · exact noComma first List.mem_cons_self
        · rcases List.mem_map.mp member with ⟨name, listed, rfl⟩
          have inName := noComma name (List.mem_cons_of_mem _ listed)
          simp [inName]
      have parts : splitAt ',' (tupleText (first :: second :: later)) =
          quotedWord first :: (second :: later).map fun name => ' ' :: quotedWord name := by
        have cut := splitAt_flatMap _ _ clean
        rw [List.flatMap_map] at cut
        exact cut
      have back : ((first :: second :: later).map fun name => ' ' :: quotedWord name).mapM
          spacedWord? = some (first :: second :: later) :=
        mapM_map_eq_self fun name member => quotedWord?_quotedWord (words name member)
      rw [slotNames?, parts]
      simpa using back

theorem isOneLine_quotedWord (isWord : IsWord name) : IsOneLine (quotedWord name) := by
  have quote : IsOneLine ['"'] := by decide
  exact quote.append (isWord.isOneLine.append quote)

theorem isOneLine_tupleText {names : List (List Char)} (words : ∀ name ∈ names, IsWord name) :
    IsOneLine (tupleText names) := by
  match names with
  | [] => exact .nil
  | [only] => exact (isOneLine_quotedWord (words only List.mem_cons_self)).append (by decide)
  | first :: second :: later =>
      apply (isOneLine_quotedWord (words first List.mem_cons_self)).append
      apply IsOneLine.flatMap
      intro name member
      exact IsOneLine.append (by decide)
        (isOneLine_quotedWord (words name (List.mem_cons_of_mem _ member)))

theorem toList_slotsLiteral (names : List String) :
    (slotsLiteral names).toList = '(' :: (tupleText (names.map String.toList) ++ [')']) := by
  match names with
  | [] => rfl
  | [only] => simp [slotsLiteral, tupleText, quotedWord]
  | first :: second :: later =>
      simp [slotsLiteral, tupleText, quotedWord, toList_joinTexts, List.flatMap_map]

theorem statement?_slots {names : List (List Char)} (words : ∀ name ∈ names, IsWord name) :
    statement? ("__slots__ = (".toList ++ (tupleText names ++ [')'])) = some (.slots names) := by
  have begun : IsWord "__slots__".toList := isWord_of_all (by decide)
  have split (rest : List Char) : "__slots__ = (".toList ++ rest =
      "__slots__".toList ++ (" = (".toList ++ rest) := by simp
  have chosen (rest : List Char) : statementOf? "__slots__".toList rest =
      ((between? " = (".toList [')'] rest).bind slotNames?).map .slots := by
    simp [statementOf?]
  have ends (rest : List Char) : (" = (".toList ++ rest).head?.any Character.isWord = false :=
    ends_cons (by decide) _
  rw [split, statement?_append begun (ends _), chosen, between?_append, Option.bind_some,
    slotNames?_tupleText words]
  rfl

end Stencil.Source
