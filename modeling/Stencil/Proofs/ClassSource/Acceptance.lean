import Stencil.Proofs.Conversion

/-!
Which documents the syntax check lets pass. Where every type is an identifier, it comes down to the
names: a quoted name has word characters only, but the language has identifiers from fewer of them.
So a document converts just if no name in it has a numeral sign or begins with a character that an
identifier may only go on with, and that is no digit.
-/

namespace Stencil

/-! ## Words in order -/

namespace SourceWord

variable {words : List SourceWord} {fault : SyntaxFault}

theorem checkAll_eq_none_iff :
    checkAll words = .ok none ↔ ∀ word ∈ words, word.check = .ok none := by
  induction words with
  | nil => simp [checkAll]
  | cons word later induction =>
      rw [List.forall_mem_cons, ← induction, checkAll]
      rcases word.check with _ | _ | _ <;> rcases checkAll later with _ | _ <;> simp

theorem exists_of_checkAll_error (failed : checkAll words = .error fault) :
    ∃ word ∈ words, word.check = .error fault := by
  induction words with
  | nil => cases failed
  | cons word later induction =>
      rw [checkAll] at failed
      split at failed
      · rename_i other checked
        cases failed
        exact ⟨word, List.mem_cons_self, checked⟩
      · rename_i other checked
        cases failed
        rcases induction checked with ⟨faulty, member, found⟩
        exact ⟨faulty, List.mem_cons_of_mem word member, found⟩
      · cases failed
      · cases failed

theorem exists_of_checkAll_some (failed : checkAll words = .ok (some fault)) :
    ∃ word ∈ words, word.check = .ok (some fault) := by
  induction words with
  | nil => cases failed
  | cons word later induction =>
      rw [checkAll] at failed
      split at failed
      · cases failed
      · cases failed
      · rename_i other _ checked _
        cases failed
        exact ⟨word, List.mem_cons_self, checked⟩
      · rename_i found _ checked
        cases failed
        rcases induction checked with ⟨faulty, member, found⟩
        exact ⟨faulty, List.mem_cons_of_mem word member, found⟩

/-- A word with a fault, be it one of the word by itself or of its place. -/
def IsFaulty (word : SourceWord) (fault : SyntaxFault) : Prop :=
  word.check = .error fault ∨ word.check = .ok (some fault)

end SourceWord

/-! ## Rows in order -/

section Rows

variable {rows : List Row}

theorem checkRows_some (error : SourceError) (line : Nat)
    (shallow : ∀ row ∈ rows, row.depth < levelLimit) :
    ∃ found, checkRows (some error) line rows = some found := by
  induction rows generalizing error line with
  | nil => exact ⟨error, rfl⟩
  | cons row later induction =>
      rcases List.forall_mem_cons.mp shallow with ⟨_, laterShallow⟩
      rw [checkRows]
      split
      · exact ⟨_, rfl⟩
      · split
        · exact ⟨_, rfl⟩
        · exact induction _ _ laterShallow

theorem checkRows_cons {pending : Option SourceError} {line : Nat} {row : Row} {later : List Row}
    (shallow : row.depth < levelLimit) :
    checkRows pending line (row :: later) =
      match SourceWord.checkAll row.words with
      | .error fault => some ⟨line, fault⟩
      | .ok found => checkRows (pending.or (found.map (⟨line, ·⟩))) (line + 1) later := by
  have inside : (levelLimit ≤ row.depth && row.text != "") = false := by
    simp [Nat.not_le.mpr shallow]
  rw [checkRows, inside]
  exact if_neg Bool.false_ne_true

/-- Rows that do not stand too deep are in order just if each of their words is. -/
theorem checkRows_eq_none_iff {line : Nat} (shallow : ∀ row ∈ rows, row.depth < levelLimit) :
    checkRows none line rows = none ↔ ∀ row ∈ rows, ∀ word ∈ row.words, word.check = .ok none := by
  induction rows generalizing line with
  | nil => simp [checkRows]
  | cons row later induction =>
      rcases List.forall_mem_cons.mp shallow with ⟨rowShallow, laterShallow⟩
      rw [List.forall_mem_cons, ← SourceWord.checkAll_eq_none_iff, checkRows_cons rowShallow]
      cases checked : SourceWord.checkAll row.words with
      | error fault => simp
      | ok found =>
          cases found with
          | none => simpa using induction laterShallow
          | some fault =>
              rcases checkRows_some ⟨line, fault⟩ (line + 1) laterShallow with ⟨error, refused⟩
              simp [refused]

/-- What is told of rows is the fault of one of their words, or what was known before. -/
theorem exists_of_checkRows {pending : Option SourceError} {line : Nat} {error : SourceError}
    (shallow : ∀ row ∈ rows, row.depth < levelLimit)
    (refused : checkRows pending line rows = some error) :
    pending = some error ∨ ∃ row ∈ rows, ∃ word ∈ row.words, word.IsFaulty error.fault := by
  induction rows generalizing pending line with
  | nil => exact .inl refused
  | cons row later induction =>
      rcases List.forall_mem_cons.mp shallow with ⟨rowShallow, laterShallow⟩
      rw [checkRows_cons rowShallow] at refused
      cases checked : SourceWord.checkAll row.words with
      | error fault =>
          rw [checked] at refused
          cases refused
          rcases SourceWord.exists_of_checkAll_error checked with ⟨word, member, found⟩
          exact .inr ⟨row, List.mem_cons_self, word, member, .inl found⟩
      | ok found =>
          rw [checked] at refused
          rcases induction laterShallow refused with before | ⟨other, member, faulty⟩
          · cases known : pending with
            | some earlier =>
                rw [known, Option.some_or] at before
                exact .inl before
            | none =>
                rw [known, Option.none_or] at before
                rcases Option.map_eq_some_iff.mp before with ⟨fault, rfl, rfl⟩
                rcases SourceWord.exists_of_checkAll_some checked with ⟨word, member, found⟩
                exact .inr ⟨row, List.mem_cons_self, word, member, .inr found⟩
          · exact .inr ⟨other, List.mem_cons_of_mem row member, faulty⟩

end Rows

/-! ## The words of a template -/

section Words

variable {fields : List EmittedField}

theorem words_attributeRows :
    (attributeRows fields).flatMap Row.words = fields.flatMap EmittedField.words := by
  cases fields <;> simp [attributeRows, Row.line, Row.blank, List.flatMap_map]

theorem words_constructorRows :
    (constructorRows fields).flatMap Row.words =
      fields.flatMap EmittedField.words ++ fields.map fun field => .name field.name := by
  cases fields <;> simp [constructorRows, Row.line, List.flatMap_map, ← List.map_eq_flatMap]

theorem words_renderRows {body : String} :
    (renderRows fields body).flatMap Row.words = fields.map fun field => .name field.name := by
  simp [renderRows, Row.line, List.flatMap_map, ← List.map_eq_flatMap]

/-- The words of a class are its name, and the name and the type of each of its fields. -/
theorem mem_words_classRows {template : TemplateClass} {word : SourceWord} :
    word ∈ (classRows template).flatMap Row.words ↔
      word = .name (toIdentifier template.name) ∨ ∃ field ∈ template.fields,
        word = .name (toIdentifier field.name) ∨ word = .type field.type := by
  simp only [classRows, List.cons_append, List.flatMap_cons, List.flatMap_append,
    words_attributeRows, words_constructorRows, words_renderRows, Row.line, Row.blank]
  simp [EmittedField.words, EmittedField.ofField, List.mem_flatMap]
  grind

theorem depth_classRows {template : TemplateClass} :
    ∀ row ∈ classRows template, row.depth ≤ 2 := by
  rcases template with ⟨name, fields, body⟩
  cases fields <;>
    simp [classRows, attributeRows, constructorRows, renderRows, Row.line, Row.blank,
      or_imp, forall_and]

end Words

/-! ## Identifiers -/

namespace Identifier

/-- A word that the language takes for an identifier, unless it keeps it for itself. -/
structure IsIdentifier (name : List Char) : Prop where
  start : name.head?.any Character.mayStartIdentifier = true
  later : ∀ c ∈ name, Character.mayContinueIdentifier c = true

/-- A character that quoting leaves or brings in order at the front of a name. -/
def MayLead (c : Char) : Prop :=
  Character.isDigit c = true ∨ Character.mayStartIdentifier c = true

instance : DecidablePred MayLead := fun _ => inferInstanceAs (Decidable (_ ∨ _))

/-- A name whose quoted form is an identifier: its word characters are those of identifiers, and
if one of them comes first, it begins an identifier or is a digit. -/
structure IsSpellable (name : List Char) : Prop where
  start : ∀ c ∈ name.head?, Character.isWord c = true → MayLead c
  later : ∀ c ∈ name, Character.isWord c = true → Character.mayContinueIdentifier c = true

instance (name : List Char) : Decidable (IsIdentifier name) :=
  decidable_of_iff (name.head?.any Character.mayStartIdentifier = true ∧
      name.all Character.mayContinueIdentifier = true)
    ⟨fun ⟨start, later⟩ => ⟨start, List.all_eq_true.mp later⟩,
      fun identifier => ⟨identifier.start, List.all_eq_true.mpr identifier.later⟩⟩

instance (name : List Char) : Decidable (IsSpellable name) :=
  decidable_of_iff
    (name.head?.all (fun c => decide (Character.isWord c = true → MayLead c)) = true ∧
      name.all (fun c => decide (Character.isWord c = true →
        Character.mayContinueIdentifier c = true)) = true) <| by
    simp only [Option.all_eq_true, List.all_eq_true, decide_eq_true_iff]
    exact ⟨fun ⟨start, later⟩ => ⟨start, later⟩,
      fun spellable => ⟨spellable.start, spellable.later⟩⟩

theorem mayContinue_of_mayStart {c : Char} (starts : Character.mayStartIdentifier c = true) :
    Character.mayContinueIdentifier c = true := by
  rw [Character.mayStartIdentifier, Bool.and_eq_true] at starts
  exact starts.1

theorem isIdentifier_cons_iff {c : Char} {rest : List Char} :
    IsIdentifier (c :: rest) ↔ Character.mayStartIdentifier c = true ∧
      ∀ d ∈ rest, Character.mayContinueIdentifier d = true := by
  constructor
  · intro identifier
    exact ⟨identifier.start, (List.forall_mem_cons.mp identifier.later).2⟩
  · intro ⟨starts, goesOn⟩
    exact ⟨starts, List.forall_mem_cons.mpr ⟨mayContinue_of_mayStart starts, goesOn⟩⟩

theorem isIdentifier_guardEnd {name : List Char} (nonempty : name ≠ []) :
    IsIdentifier (guardEnd name) ↔ IsIdentifier name := by
  have underscore : Character.mayContinueIdentifier '_' = true := by decide
  rcases List.exists_cons_of_ne_nil nonempty with ⟨c, rest, rfl⟩
  rw [guardEnd]
  split
  · rw [List.cons_append, isIdentifier_cons_iff, isIdentifier_cons_iff, List.forall_mem_append]
    simp [underscore]
  · exact Iff.rfl

theorem isIdentifier_guardStart {name : List Char} :
    IsIdentifier (guardStart name) ↔
      (∀ c, name.head? = some c → MayLead c) ∧
      ∀ c ∈ name, Character.mayContinueIdentifier c = true := by
  have underscore : Character.mayStartIdentifier '_' = true := by decide
  cases name with
  | nil => simp [guardStart, isIdentifier_cons_iff, underscore]
  | cons c rest =>
      rw [guardStart]
      split
      · rename_i digit
        simp [isIdentifier_cons_iff, underscore, MayLead, digit]
      · rename_i noDigit
        simp only [isIdentifier_cons_iff, List.head?_cons, Option.some.injEq, forall_eq', MayLead,
          noDigit, Bool.false_eq_true, false_or, List.forall_mem_cons]
        exact and_congr_right fun starts => by simp [mayContinue_of_mayStart starts]

/-- What holds of the underscore holds of a character read as a word just if it holds of the
character or this is none of a word. -/
theorem wordCharacter_iff (property : Char → Prop) (underscore : property '_') (c : Char) :
    property (if Character.isWord c then c else '_') ↔
      (Character.isWord c = true → property c) := by
  split <;> simp [*]

/-- Quoting makes an identifier of a name just if its word characters allow for one. -/
theorem isIdentifier_quote_iff {name : List Char} :
    IsIdentifier (quote name) ↔ IsSpellable name := by
  have starts : Character.mayStartIdentifier '_' = true := by decide
  have leading := wordCharacter_iff MayLead (.inr starts)
  have goesOn := wordCharacter_iff (fun c => Character.mayContinueIdentifier c = true)
    (mayContinue_of_mayStart starts)
  rw [quote, isIdentifier_guardEnd (guardStart_ne_nil _), isIdentifier_guardStart, wordsOnly,
    List.forall_mem_map]
  constructor
  · intro identifier
    rcases identifier with ⟨start, later⟩
    refine ⟨?_, fun c member => (goesOn c).mp (later c member)⟩
    intro c first
    exact (leading c).mp (start _ (by rw [List.head?_map, first, Option.map_some]))
  · intro spellable
    refine ⟨?_, fun c member => (goesOn c).mpr (spellable.later c member)⟩
    intro first found
    rw [List.head?_map] at found
    rcases Option.map_eq_some_iff.mp found with ⟨c, head, rfl⟩
    exact (leading c).mpr (spellable.start c head)

/-- Quoting adds nothing but underscores. -/
theorem mem_of_mem_quote {name : List Char} {c : Char} (member : c ∈ quote name)
    (other : c ≠ '_') : c ∈ name := by
  have guarded : c ∈ guardStart (wordsOnly name) := by
    rw [quote, guardEnd] at member
    split at member
    · simpa [other] using member
    · exact member
  have read : c ∈ wordsOnly name := by
    cases words : wordsOnly name with
    | nil => simp [words, guardStart, other] at guarded
    | cons first rest =>
        rw [words, guardStart] at guarded
        split at guarded
        · simpa [other] using guarded
        · exact guarded
  rcases List.mem_map.mp read with ⟨original, found, same⟩
  split at same
  · exact same ▸ found
  · exact absurd same.symm other

end Identifier

/-! ## Names and types -/

namespace Lexeme

open Identifier

theorem checkName_eq_ok_iff {name : List Char} (nonempty : name ≠ []) :
    checkName name = .ok () ↔ IsIdentifier name := by
  rcases List.exists_cons_of_ne_nil nonempty with ⟨c, rest, rfl⟩
  rw [isIdentifier_cons_iff, checkName]
  cases starts : Character.mayStartIdentifier c with
  | false => simp
  | true =>
      cases found : rest.find? (!Character.mayContinueIdentifier ·) with
      | none =>
          have goesOn := List.find?_eq_none.mp found
          simpa using goesOn
      | some other =>
          have stops := List.find?_some found
          have member := List.mem_of_find?_eq_some found
          simp only [Bool.not_true, Bool.false_eq_true, if_false, reduceCtorEq, true_and, false_iff]
          intro goesOn
          simp [goesOn other member] at stops

theorem exists_of_checkName {name : List Char} {fault : SyntaxFault}
    (refused : checkName name = .error fault) :
    ∃ c ∈ name, Character.mayStartIdentifier c = false ∧ fault = .badCharacter c := by
  cases name with
  | nil => cases refused
  | cons c rest =>
      rw [checkName] at refused
      split at refused
      · rename_i stops
        cases refused
        exact ⟨c, List.mem_cons_self, by simpa using stops, rfl⟩
      · split at refused
        · rename_i other found
          cases refused
          have stops := List.find?_some found
          refine ⟨other, List.mem_cons_of_mem c (List.mem_of_find?_eq_some found), ?_, rfl⟩
          simp [Character.mayStartIdentifier, Bool.not_eq_eq_eq_not.mp stops]
        · cases refused

theorem isAsciiDigit_of_mayStart {c : Char} (starts : Character.mayStartIdentifier c = true) :
    Character.isAsciiDigit c = false := by
  cases digit : Character.isAsciiDigit c with
  | false => rfl
  | true =>
      have ascii : Character.IsAscii c := by
        simp only [Character.isAsciiDigit, Bool.and_eq_true, decide_eq_true_eq, Char.le_def,
          UInt32.le_iff_toNat_le] at digit
        exact Nat.lt_of_le_of_lt digit.2 (by decide)
      have stops : Character.isAsciiDigit c = true → Character.mayStartIdentifier c = false :=
        Character.IsAscii.of_codes
          (fun c => Character.isAsciiDigit c = true → Character.mayStartIdentifier c = false)
          (by decide) ascii
      rw [stops digit] at starts
      cases starts

/-- An identifier that the language does not keep for itself is in order as a type. -/
theorem checkType_of_isIdentifier {word : List Char} (identifier : IsIdentifier word)
    (free : keywords.any (·.toList == word) = false) : checkType word = .ok none := by
  cases word with
  | nil => cases identifier.start
  | cons c rest =>
      have noDigit := isAsciiDigit_of_mayStart identifier.start
      have named : checkName (c :: rest) = .ok () :=
        (checkName_eq_ok_iff (List.cons_ne_nil c rest)).mpr identifier
      rw [checkType, noDigit, if_neg Bool.false_ne_true, named]
      simp [isMisplaced, free, bind, Except.bind]

end Lexeme

/-- A type that is an identifier and no keyword. -/
structure IsPlainType (type : String) : Prop where
  identifier : Identifier.IsIdentifier type.toList
  free : type ∉ Identifier.keywords

instance (type : String) : Decidable (IsPlainType type) :=
  decidable_of_iff (Identifier.IsIdentifier type.toList ∧ type ∉ Identifier.keywords)
    ⟨fun ⟨identifier, free⟩ => ⟨identifier, free⟩, fun plain => ⟨plain.identifier, plain.free⟩⟩

namespace SourceWord

theorem check_type {type : String} (plain : IsPlainType type) :
    (SourceWord.type type).check = .ok none := by
  apply Lexeme.checkType_of_isIdentifier plain.identifier
  rw [List.any_eq_false]
  intro word member same
  exact plain.free (String.toList_injective (eq_of_beq same) ▸ member)

theorem check_name_iff {given : String} :
    (SourceWord.name (toIdentifier given)).check = .ok none ↔
      Identifier.IsSpellable given.toList := by
  have fit := Identifier.quote_isFit given.toList
  rw [← Identifier.isIdentifier_quote_iff, ← Lexeme.checkName_eq_ok_iff fit.nonempty, check,
    toIdentifier, String.toList_ofList]
  cases Lexeme.checkName (Identifier.quote given.toList) <;> simp [Except.map]

/-- A name with a fault has a word character that begins no identifier, and it is told. -/
theorem exists_of_isFaulty {given : String} {fault : SyntaxFault}
    (faulty : IsFaulty (.name (toIdentifier given)) fault) :
    ∃ c ∈ given.toList, Character.isWord c = true ∧ Character.mayStartIdentifier c = false ∧
      fault = .badCharacter c := by
  have refused : Lexeme.checkName (Identifier.quote given.toList) = .error fault := by
    rw [IsFaulty, check, toIdentifier, String.toList_ofList] at faulty
    cases checked : Lexeme.checkName (Identifier.quote given.toList) with
    | error other => simpa [checked, Except.map] using faulty
    | ok _ => simp [checked, Except.map] at faulty
  rcases Lexeme.exists_of_checkName refused with ⟨c, member, stops, rfl⟩
  have other : c ≠ '_' := by
    rintro rfl
    revert stops
    decide
  exact ⟨c, Identifier.mem_of_mem_quote member other, (Identifier.quote_isFit _).words c member,
    stops, rfl⟩

end SourceWord

/-! ## Documents -/

theorem sourceError?_ofTemplate_eq (template : TemplateClass) :
    sourceError? (.ofTemplate template) =
      checkRows none 1 (preamble ++ .blank :: .blank :: classRows template) := by
  simp [sourceError?, moduleRows, Scope.ofTemplate, Scope.empty, Scope.add, scopeBlocks,
    childBlocks]

theorem emitScope_result (scope : Scope) :
    (emitScope scope true).result =
      match sourceError? scope with
      | none => .ok (moduleSource scope)
      | some error => .error (.source error) := by
  cases found : sourceError? scope with
  | none =>
      have emitted : emitModule scope true = .ok (moduleSource scope) := by
        simp only [emitModule, found]
      rw [emitScope, emitted]
      rfl
  | some error =>
      have emitted : emitModule scope true = .error error := by
        simp only [emitModule, found]
      rw [emitScope, emitted]
      rfl

theorem documentTemplate_result {document filename name : String} {fields : List Field}
    (minified : Bool) (named : className filename = .ok name)
    (header : headerFields document = .ok fields) :
    (documentTemplate document filename minified).result =
      .ok ⟨name, fields, substitute (documentBody document minified)⟩ := by
  rw [documentTemplate, named, Run.bind_result_of_ok rfl, compileTemplate, header]
  rfl

/-- A document with a name and a header converts to the source of its class, if that is in order. -/
theorem convertDocument_result {document filename name : String} {fields : List Field}
    (minified : Bool) (named : className filename = .ok name)
    (header : headerFields document = .ok fields) :
    ∃ template : TemplateClass, template.name = name ∧ template.fields = fields ∧
      (convertDocument document filename minified true).result =
        match sourceError? (.ofTemplate template) with
        | none => .ok (moduleSource (.ofTemplate template))
        | some error => .error (.source error) := by
  refine ⟨⟨name, fields, substitute (documentBody document minified)⟩, rfl, rfl, ?_⟩
  rw [convertDocument, Run.bind_result_of_ok (documentTemplate_result minified named header),
    emitScope_result]

section Template

variable {template : TemplateClass}

theorem depth_templateRows :
    ∀ row ∈ preamble ++ .blank :: .blank :: classRows template, row.depth < levelLimit := by
  intro row member
  have bounded : row.depth ≤ 2 := by
    simp only [List.mem_append, List.mem_cons] at member
    rcases member with fixed | rfl | rfl | inClass
    · revert row
      decide
    · decide
    · decide
    · exact depth_classRows row inClass
  exact Nat.lt_of_le_of_lt bounded (by decide)

/-- The words of the source of a template are those of its class. -/
theorem mem_words_templateRows {word : SourceWord} :
    (∃ row ∈ preamble ++ .blank :: .blank :: classRows template, word ∈ row.words) ↔
      word = .name (toIdentifier template.name) ∨ ∃ field ∈ template.fields,
        word = .name (toIdentifier field.name) ∨ word = .type field.type := by
  rw [← mem_words_classRows, List.mem_flatMap]
  simp [preamble, Row.line, Row.blank]

theorem sourceError?_eq_none_iff (types : ∀ field ∈ template.fields, IsPlainType field.type) :
    sourceError? (.ofTemplate template) = none ↔
      ∀ given ∈ template.name :: template.fields.map Field.name,
        Identifier.IsSpellable given.toList := by
  rw [sourceError?_ofTemplate_eq, checkRows_eq_none_iff depth_templateRows, List.forall_mem_cons,
    List.forall_mem_map, ← SourceWord.check_name_iff]
  constructor
  · intro inOrder
    have inOrder (word : SourceWord) (found : ∃ row ∈ preamble ++ .blank :: .blank ::
        classRows template, word ∈ row.words) : word.check = .ok none := by
      rcases found with ⟨row, inRows, inRow⟩
      exact inOrder row inRows word inRow
    refine ⟨inOrder _ (mem_words_templateRows.mpr (.inl rfl)), ?_⟩
    intro field member
    rw [← SourceWord.check_name_iff]
    exact inOrder _ (mem_words_templateRows.mpr (.inr ⟨field, member, .inl rfl⟩))
  · intro ⟨nameInOrder, fieldsInOrder⟩ row inRows word inRow
    rcases mem_words_templateRows.mp ⟨row, inRows, inRow⟩ with
      rfl | ⟨field, member, rfl | rfl⟩
    · exact nameInOrder
    · exact SourceWord.check_name_iff.mpr (fieldsInOrder field member)
    · exact SourceWord.check_type (types field member)

/-- The fault that is told is a character that stands in a name and begins no identifier. -/
theorem exists_of_sourceError? {error : SourceError}
    (types : ∀ field ∈ template.fields, IsPlainType field.type)
    (refused : sourceError? (.ofTemplate template) = some error) :
    ∃ given ∈ template.name :: template.fields.map Field.name, ∃ c ∈ given.toList,
      Character.isWord c = true ∧ Character.mayStartIdentifier c = false ∧
        error.fault = .badCharacter c := by
  rw [sourceError?_ofTemplate_eq] at refused
  rcases exists_of_checkRows depth_templateRows refused with absurdity | ⟨row, inRows, faulty⟩
  · cases absurdity
  · rcases faulty with ⟨word, inRow, faulty⟩
    rcases mem_words_templateRows.mp ⟨row, inRows, inRow⟩ with
      rfl | ⟨field, member, rfl | rfl⟩
    · exact ⟨template.name, List.mem_cons_self, SourceWord.exists_of_isFaulty faulty⟩
    · exact ⟨field.name, List.mem_cons_of_mem _ (List.mem_map_of_mem member),
        SourceWord.exists_of_isFaulty faulty⟩
    · rw [SourceWord.IsFaulty, SourceWord.check_type (types field member)] at faulty
      simp at faulty

end Template

/-- A document whose types are plain converts just if its names are spellable. If it does not, the
source is refused for a word character in one of its names. -/
theorem convertDocument_isAccepted_iff {document filename name : String} {fields : List Field}
    (minified : Bool) (named : className filename = .ok name)
    (header : headerFields document = .ok fields)
    (types : ∀ field ∈ fields, IsPlainType field.type) :
    ((∃ source, (convertDocument document filename minified true).result = .ok source) ↔
      ∀ given ∈ name :: fields.map Field.name, Identifier.IsSpellable given.toList) ∧
    ∀ error, (convertDocument document filename minified true).result = .error error →
      ∃ line, ∃ given ∈ name :: fields.map Field.name, ∃ c ∈ given.toList,
        Character.isWord c = true ∧ Character.mayStartIdentifier c = false ∧
          error = .source ⟨line, .badCharacter c⟩ := by
  rcases convertDocument_result minified named header with ⟨template, rfl, rfl, result⟩
  rw [result, ← sourceError?_eq_none_iff types]
  cases found : sourceError? (.ofTemplate template) with
  | none => simp
  | some error =>
      refine ⟨by simp, ?_⟩
      intro other same
      cases same
      rcases exists_of_sourceError? types found with ⟨given, member, c, inName, word, stops, fault⟩
      exact ⟨error.line, given, member, c, inName, word, stops, by rw [← fault]⟩

/-- Fields that are named with a letter beyond ASCII and with a keyword. -/
def accentedDocument : String := "\x7bé: str\nclass: Page\x7d\n@class@ @self@ '\x7b\x7d\""

def accentedFields : List Field := [⟨"é", "str"⟩, ⟨"class", "Page"⟩]

theorem convertDocument_isAccepted_accented :
    className "404-ß.html" = .ok "404-ß" ∧ headerFields accentedDocument = .ok accentedFields ∧
      (∀ field ∈ accentedFields, IsPlainType field.type) ∧
      ∃ source, (convertDocument accentedDocument "404-ß.html" true true).result = .ok source := by
  have named : className "404-ß.html" = .ok "404-ß" := by decide +kernel
  have header : headerFields accentedDocument = .ok accentedFields := by decide +kernel
  have types : ∀ field ∈ accentedFields, IsPlainType field.type := by decide +kernel
  have spellable : ∀ given ∈ "404-ß" :: accentedFields.map Field.name,
      Identifier.IsSpellable given.toList := by
    decide +kernel
  exact ⟨named, header, types,
    (convertDocument_isAccepted_iff true named header types).1.mpr spellable⟩

/-- A field may be named with a sign that stands for a number, but no identifier holds it, and
quoting leaves it in its place. -/
theorem convertDocument_numeralSign :
    className "page.html" = .ok "Page" ∧
      headerFields "\x7ba²: str\x7d\n" = .ok [⟨"a²", "str"⟩] ∧
      (∀ field ∈ [(⟨"a²", "str"⟩ : Field)], IsPlainType field.type) ∧
      (convertDocument "\x7ba²: str\x7d\n" "page.html" true true).result =
        .error (.source ⟨9, .badCharacter '²'⟩) := by
  decide +kernel

end Stencil
