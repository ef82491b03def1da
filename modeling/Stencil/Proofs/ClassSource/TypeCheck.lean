import Stencil.Proofs.ClassSource.TypeWord

/-!
The syntax check as a check of types. Where all names are of ASCII characters, nothing in the source
of a document but its types can be refused, and these are refused just if they are no words for a
type.
-/

namespace Stencil

open Character

/-! ## ASCII names -/

theorem isSpellable_of_ascii {name : List Char} (ascii : ∀ c ∈ name, IsAscii c) :
    Identifier.IsSpellable name := by
  constructor
  · intro c first word
    have inName : c ∈ name := List.mem_of_mem_head? first
    cases digit : isDigit c with
    | true => exact .inl digit
    | false => exact .inr (mayStartIdentifier_of_isWord (ascii c inName) word digit)
  · exact fun c member => mayContinueIdentifier_of_isWord (ascii c member)

theorem mem_of_mem_splitAt {separator : Char} {text piece : List Char}
    (member : piece ∈ splitAt separator text) : ∀ c ∈ piece, c ∈ text := by
  induction text generalizing piece with
  | nil =>
      cases List.mem_singleton.mp member
      exact fun c absurdity => nomatch absurdity
  | cons first rest induction =>
      rw [splitAt] at member
      split at member
      · rcases List.mem_cons.mp member with rfl | later
        · exact fun c absurdity => nomatch absurdity
        · exact fun c inPiece => List.mem_cons_of_mem first (induction later c inPiece)
      · rcases List.exists_cons_of_ne_nil (splitAt_ne_nil separator rest) with ⟨next, others, cut⟩
        rw [cut, extendFirst, List.mem_cons] at member
        rcases member with rfl | later
        · intro c inPiece
          rcases List.mem_cons.mp inPiece with rfl | inNext
          · exact List.mem_cons_self
          · exact List.mem_cons_of_mem first (induction (by simp [cut]) c inNext)
        · intro c inPiece
          exact List.mem_cons_of_mem first (induction (by simp [cut, later]) c inPiece)

theorem mem_of_mem_stem {filename : String} {c : Char}
    (member : c ∈ (Path.ofString filename).stem.toList) : c ∈ filename.toList := by
  have inName : c ∈ (Path.ofString filename).name.toList := by
    rw [Path.stem, String.toList_ofList, Path.stemOf] at member
    split at member
    · exact member
    · exact List.mem_of_mem_take member
  rw [Path.name] at inName
  cases last : (Path.ofString filename).names.getLast? with
  | none => simp [last] at inName
  | some name =>
      rw [last, Option.getD_some] at inName
      have listed := (List.mem_filter.mp (List.mem_of_mem_getLast? last)).1
      rcases List.mem_map.mp listed with ⟨piece, inPieces, rfl⟩
      rw [String.toList_ofList] at inName
      exact mem_of_mem_splitAt inPieces c inName

/-- No small ASCII letter has a capital that is several letters or lies further up. -/
theorem upper_bounds :
    (∀ expansion ∈ upperExpansions, 0x80 ≤ expansion.1) ∧
      ∀ run ∈ upperRuns, 0x80 ≤ run.first ∨ run.offset ≤ 0 := by
  decide +kernel

theorem ascii_upper {c : Char} (ascii : IsAscii c) : ∀ d ∈ upper c, IsAscii d := by
  rcases upper_bounds with ⟨expansions, runs⟩
  have single : upperExpansions.find? (·.1 == c.toNat) = none := by
    rw [List.find?_eq_none]
    intro expansion member same
    exact absurd (eq_of_beq same ▸ expansions expansion member) (Nat.not_le.mpr ascii)
  intro d member
  rw [upper, single, List.mem_singleton] at member
  cases image : upperRuns.findSome? (·.image? c.toNat) with
  | none =>
      rw [image] at member
      exact member ▸ ascii
  | some code =>
      rcases List.exists_of_findSome?_eq_some image with ⟨run, inRuns, found⟩
      have bounded : code ≤ c.toNat := by
        have below := runs run inRuns
        rw [CaseRun.image?] at found
        split at found
        · rename_i covered
          cases found
          simp only [Bool.and_eq_true, decide_eq_true_eq] at covered
          have inAscii : c.toNat < 0x80 := ascii
          omega
        · cases found
      rw [image, Option.map_some, Option.getD_some] at member
      have codes : ∀ code : Fin 0x80, IsAscii (Char.ofNat code) := by decide
      rw [member]
      exact codes ⟨code, Nat.lt_of_le_of_lt bounded ascii⟩

theorem ascii_upperFirst {text : List Char} (ascii : ∀ c ∈ text, IsAscii c) :
    ∀ c ∈ upperFirst text, IsAscii c := by
  cases text with
  | nil => exact ascii
  | cons first rest =>
      rw [List.forall_mem_cons] at ascii
      rw [upperFirst, List.forall_mem_append]
      exact ⟨ascii_upper ascii.1, ascii.2⟩

/-- A file name of ASCII characters names a class with such a name, unless its stem is empty. -/
theorem className_of_ascii {filename : String} (ascii : ∀ c ∈ filename.toList, IsAscii c)
    (stem : (Path.ofString filename).stem ≠ "") :
    ∃ name, className filename = .ok name ∧ ∀ c ∈ name.toList, IsAscii c := by
  have nonempty : (Path.ofString filename).stem.isEmpty = false := by
    simpa [String.isEmpty_iff] using stem
  refine ⟨uppercaseFirst (Path.ofString filename).stem, ?_, ?_⟩
  · rw [className, nonempty]
    rfl
  · rw [uppercaseFirst, String.toList_ofList]
    exact ascii_upperFirst fun c member => ascii c (mem_of_mem_stem member)

/-! ## Documents -/

theorem sourceError?_eq_none_iff_types {template : TemplateClass}
    (names : ∀ given ∈ template.name :: template.fields.map Field.name,
      ∀ c ∈ given.toList, IsAscii c)
    (short : ∀ field ∈ template.fields, field.type.toList.length ≤ Lexeme.longestInteger) :
    sourceError? (.ofTemplate template) = none ↔
      ∀ field ∈ template.fields, IsTypeWord field.type := by
  have nameInOrder (given : String)
      (listed : given ∈ template.name :: template.fields.map Field.name) :
      (SourceWord.name (toIdentifier given)).check = .ok none :=
    SourceWord.check_name_iff.mpr (isSpellable_of_ascii (names given listed))
  rw [sourceError?_ofTemplate_eq, checkRows_eq_none_iff depth_templateRows]
  constructor
  · intro inOrder field member
    rcases mem_words_templateRows.mpr (.inr ⟨field, member, .inr rfl⟩) with ⟨row, inRows, inRow⟩
    exact (SourceWord.check_type_iff (short field member)).mp (inOrder row inRows _ inRow)
  · intro types row inRows word inRow
    rcases mem_words_templateRows.mp ⟨row, inRows, inRow⟩ with rfl | ⟨field, member, rfl | rfl⟩
    · exact nameInOrder template.name List.mem_cons_self
    · exact nameInOrder field.name (List.mem_cons_of_mem _ (List.mem_map_of_mem member))
    · exact (SourceWord.check_type_iff (short field member)).mpr (types field member)

/-- A document is refused just if a type of it is no word for a type. Unchecked it converts all the
same, and if it is not refused, to the same source. -/
theorem convertDocument_refuses_iff {document filename : String} {fields : List Field}
    (minified : Bool) (ascii : ∀ c ∈ filename.toList, IsAscii c)
    (stem : (Path.ofString filename).stem ≠ "") (header : headerFields document = .ok fields)
    (names : ∀ field ∈ fields, ∀ c ∈ field.name.toList, IsAscii c)
    (short : ∀ field ∈ fields, field.type.toList.length ≤ Lexeme.longestInteger) :
    ((∃ error, (convertDocument document filename minified true).result =
        .error (.source error)) ↔ ∃ field ∈ fields, ¬ IsTypeWord field.type) ∧
      ∃ source, (convertDocument document filename minified false).result = .ok source ∧
        ((∀ field ∈ fields, IsTypeWord field.type) →
          (convertDocument document filename minified true).result = .ok source) := by
  rcases className_of_ascii ascii stem with ⟨name, named, nameAscii⟩
  have compiled := documentTemplate_result minified named header
  have allAscii : ∀ given ∈ name :: fields.map Field.name, ∀ c ∈ given.toList, IsAscii c :=
    List.forall_mem_cons.mpr ⟨nameAscii, List.forall_mem_map.mpr names⟩
  let template : TemplateClass := ⟨name, fields, substitute (documentBody document minified)⟩
  have inOrder : sourceError? (.ofTemplate template) = none ↔
      ∀ field ∈ fields, IsTypeWord field.type :=
    sourceError?_eq_none_iff_types allAscii short
  have checked : (convertDocument document filename minified true).result =
      (emitScope (.ofTemplate template) true).result := by
    rw [convertDocument, Run.bind_result_of_ok compiled]
  rw [emitScope_result] at checked
  have unchecked : (convertDocument document filename minified false).result =
      .ok (moduleSource (.ofTemplate template)) := by
    rw [convertDocument, Run.bind_result_of_ok compiled]
    rfl
  refine ⟨?_, _, unchecked, ?_⟩
  · rw [checked]
    cases found : sourceError? (.ofTemplate template) with
    | none =>
        have types := inOrder.mp found
        simpa using types
    | some error =>
        have faulty : ¬ ∀ field ∈ fields, IsTypeWord field.type := by
          rw [← inOrder, found]
          simp
        simpa using faulty
  · intro types
    rw [checked, inOrder.mpr types]

/-- Fields with numbers for types, one of which the language does not take. -/
def numeralDocument : String := "\x7ba: 0x_1F\nb: 0_7\nc: 1e1_0j\x7d\n@a@"

def numeralFields : List Field := [⟨"a", "0x_1F"⟩, ⟨"b", "0_7"⟩, ⟨"c", "1e1_0j"⟩]

theorem convertDocument_refuses_numeral :
    (∀ c ∈ "page.html".toList, IsAscii c) ∧ (Path.ofString "page.html").stem ≠ "" ∧
      headerFields numeralDocument = .ok numeralFields ∧
      (∀ field ∈ numeralFields, ∀ c ∈ field.name.toList, IsAscii c) ∧
      (∀ field ∈ numeralFields, field.type.toList.length ≤ Lexeme.longestInteger) ∧
      (numeralFields.map fun field => decide (IsTypeWord field.type)) = [true, false, true] ∧
      ∃ error, (convertDocument numeralDocument "page.html" true true).result =
        .error (.source error) := by
  have ascii : ∀ c ∈ "page.html".toList, IsAscii c := by
    have all : ("page.html".toList.all fun c => decide (IsAscii c)) = true := by decide +kernel
    simpa only [List.all_eq_true, decide_eq_true_eq] using all
  have stem : (Path.ofString "page.html").stem ≠ "" := by decide +kernel
  have header : headerFields numeralDocument = .ok numeralFields := by decide +kernel
  have names : ∀ field ∈ numeralFields, ∀ c ∈ field.name.toList, IsAscii c := by
    have all : (numeralFields.all fun field =>
        field.name.toList.all fun c => decide (IsAscii c)) = true := by decide +kernel
    simpa only [List.all_eq_true, decide_eq_true_eq] using all
  have short : ∀ field ∈ numeralFields,
      field.type.toList.length ≤ Lexeme.longestInteger := by
    decide +kernel
  have words : (numeralFields.map fun field => decide (IsTypeWord field.type)) =
      [true, false, true] := by
    decide +kernel
  have refused : ∃ field ∈ numeralFields, ¬ IsTypeWord field.type := by decide +kernel
  exact ⟨ascii, stem, header, names, short, words,
    (convertDocument_refuses_iff true ascii stem header names short).1.mpr refused⟩

end Stencil
