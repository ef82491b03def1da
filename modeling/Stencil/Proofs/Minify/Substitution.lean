import Stencil.Proofs.Minify.Reference
import Stencil.Proofs.Template.Written

/-!
Minification and substitution in either order. Every character that minification looks at, a letter
of a tag among them, stands in the format string where it stands in the body, so both texts are cut
into the same pieces but for the words between them.
-/

namespace Stencil

open Placeholder

namespace Minify

/-! ## Raw elements -/

section Closing

variable {tag closing : List Char} (words : ∀ c ∈ tag, Character.isWord c = true)
  (isClosing : IsClosing tag closing)

include words isClosing

theorem IsClosing.isPlain : ∀ c ∈ closing, IsPlain c := by
  rcases isClosing with ⟨again, blanks, letters, allBlank, rfl⟩
  have againWords := forall₂_words letters fun letter inTag c same =>
    isWord_of_fold_eq (words letter inTag) same
  have bracket : IsPlain '<' := IsStop.isPlain (.inr (.inl rfl))
  have slash : IsPlain '/' := ⟨by decide, by decide⟩
  have last : IsPlain '>' := IsStop.isPlain (.inr (.inr rfl))
  refine List.forall_mem_cons.mpr ⟨bracket, List.forall_mem_cons.mpr ⟨slash, ?_⟩⟩
  refine List.forall_mem_append.mpr ⟨fun c member => isPlain_of_isWord (againWords c member), ?_⟩
  refine List.forall_mem_append.mpr ⟨fun c member => IsStop.isPlain (.inl (allBlank c member)), ?_⟩
  exact List.forall_mem_singleton.mpr last

/-- A closing tag at the head of a format string is one at the head of the body. -/
theorem IsClosing.prefix_of_written {body : List Char} (begins : closing <+: written body) :
    closing <+: body := by
  rcases begins with ⟨rest, same⟩
  rcases exists_of_written_eq_append (isClosing.isPlain words) same.symm with ⟨left, rfl, _⟩
  exact List.prefix_append closing left

theorem IsClosing.infix_of_written {body : List Char} (inside : closing <:+: written body) :
    closing <:+: body := by
  rcases List.head?_eq_some_iff.mp isClosing.head? with ⟨inner, equal⟩
  rcases inside with ⟨front, rest, same⟩
  have bracket : written body = front ++ '<' :: (inner ++ rest) := by
    rw [← same, equal, List.append_assoc, List.cons_append]
  rcases exists_of_written_eq_append_stop (.inr (.inl rfl)) bracket with ⟨before, after, rfl, _, left⟩
  have begins : closing <+: written ('<' :: after) := by
    rw [written_cons (IsStop.isPlain (.inr (.inl rfl))), left, equal]
    exact List.prefix_append ('<' :: inner) rest
  have found := isClosing.prefix_of_written words begins
  exact found.isInfix.trans (List.suffix_append before _).isInfix

theorem IsClosing.written_append (front : List Char) :
    written (front ++ closing) = written front ++ closing := by
  have plain := isClosing.isPlain words
  rcases List.head?_eq_some_iff.mp isClosing.head? with ⟨inner, rfl⟩
  rw [written_append_stop (.inr (.inl rfl)),
    ← List.append_nil inner, Placeholder.written_append (List.forall_mem_cons.mp plain).2]
  rfl

end Closing

/-- The format string of a raw element is a raw element. -/
theorem IsElement.written {element : List Char} (isElement : IsElement element) :
    IsElement (written element) := by
  rcases isElement with ⟨tag, inner, closing, parts, rfl⟩
  have words := parts.isTag.words
  have writtenInner : ∀ text, Placeholder.written (text ++ closing) =
      Placeholder.written text ++ closing := parts.isClosing.written_append words
  refine ⟨tag, Placeholder.written inner, closing, ⟨⟨parts.isClosing, ?_⟩, parts.isTag, ?_⟩, ?_⟩
  · rintro earlier later equal nonempty ⟨other, otherClosing, begins⟩
    -- A closing tag that begins inside begins inside the element as well.
    rcases List.exists_cons_of_ne_nil nonempty with ⟨c, behind, rfl⟩
    have bracket : c = '<' := by
      rcases List.head?_eq_some_iff.mp otherClosing.head? with ⟨rest, rfl⟩
      exact (List.cons_prefix_cons.mp begins).1.symm
    subst bracket
    rcases exists_of_written_eq_append_stop (.inr (.inl rfl)) equal with
      ⟨before, after, rfl, _, rfl⟩
    rw [← written_cons (IsStop.isPlain (.inr (.inl rfl))), ← writtenInner] at begins
    exact parts.first before ('<' :: after) rfl (List.cons_ne_nil _ _)
      ⟨other, otherClosing, otherClosing.prefix_of_written words begins⟩
  · rw [← writtenInner, head?_written_any (by decide)]
    exact parts.boundary
  · rw [written_cons (IsStop.isPlain (.inr (.inl rfl))),
      Placeholder.written_append fun c member => isPlain_of_isWord (words c member), writtenInner]

/-- Substitution makes no raw element. -/
theorem exists_element_of_written {rest : List Char}
    (opened : ∃ element, IsElement element ∧ element <+: '<' :: written rest) :
    ∃ element, IsElement element ∧ element <+: '<' :: rest := by
  rcases exists_element_iff.mp opened with
    ⟨tag, behind, closing, isTag, equal, boundary, isClosing, inside⟩
  have plain : ∀ c ∈ tag, IsPlain c := fun c member => isPlain_of_isWord (isTag.words c member)
  rcases exists_of_written_eq_append plain equal with ⟨left, rfl, rfl⟩
  rw [head?_written_any (by decide)] at boundary
  exact exists_element_iff.mpr ⟨tag, left, closing, isTag, rfl, boundary, isClosing,
    isClosing.infix_of_written isTag.words inside⟩

/-! ## Words -/

/-- A text within a word. -/
def IsUnbroken (word : List Char) : Prop :=
  ∀ c ∈ word, ¬IsStop c

section Word

variable {word : List Char} (unbroken : IsUnbroken word)

include unbroken

theorem IsUnbroken.pieces_append (rest : List Char) :
    pieces (word ++ rest) = word.map .other ++ pieces rest := by
  induction word with
  | nil => rfl
  | cons c word induction =>
      rcases List.forall_mem_cons.mp unbroken with ⟨first, others⟩
      have fits : (Piece.other c).FitsBefore (word ++ rest) := by
        refine ⟨Bool.eq_false_iff.mpr fun blank => first (.inl blank), ?_⟩
        rintro element isElement begins
        rcases isElement.exists_cons with ⟨behind, rfl⟩
        exact first (.inr (.inl (List.cons_prefix_cons.mp begins).1.symm))
      rw [List.map_cons, List.cons_append, List.cons_append, ← induction others]
      exact Minify.pieces_append fits

theorem IsUnbroken.collapse_append (afterTag : Bool) (list : List Piece) :
    collapse afterTag (word.map .other ++ list) =
      word ++ collapse (afterTag && word.isEmpty) list := by
  induction word generalizing afterTag with
  | nil => simp
  | cons c word induction =>
      rcases List.forall_mem_cons.mp unbroken with ⟨first, others⟩
      have noBracket : (c == '>') = false := beq_false_of_ne fun equal => first (.inr (.inr equal))
      rw [List.map_cons, List.cons_append, collapse, induction others, noBracket]
      simp

theorem IsUnbroken.written : IsUnbroken (written word) := fun c member stops =>
  unbroken c (mem_of_mem_written stops member) stops

theorem IsUnbroken.concat {c : Char} (inside : ¬IsStop c) : IsUnbroken (word ++ [c]) :=
  List.forall_mem_append.mpr ⟨unbroken, List.forall_mem_singleton.mpr inside⟩

/-- A text that goes on with a word is cut behind the word. -/
theorem IsUnbroken.collapse_pieces (afterTag : Bool) (rest : List Char) :
    collapse afterTag (pieces (word ++ rest)) =
      word ++ collapse (afterTag && word.isEmpty) (pieces rest) := by
  rw [unbroken.pieces_append, unbroken.collapse_append]

end Word

theorem isEmpty_written (word : List Char) : (written word).isEmpty = word.isEmpty := by
  rw [Bool.eq_iff_iff, List.isEmpty_iff, List.isEmpty_iff, written_eq_nil_iff]

/-! ## Collapsing -/

theorem written_append_element {element : List Char} (isElement : IsElement element)
    (front rest : List Char) :
    written (front ++ (element ++ rest)) = written front ++ (written element ++ written rest) := by
  rcases List.getLast?_eq_some_iff.mp isElement.getLast? with ⟨inner, equal⟩
  rcases isElement.exists_cons with ⟨behind, rfl⟩
  have split : written ('<' :: behind ++ rest) = written ('<' :: behind) ++ written rest := by
    rw [equal, List.append_assoc, List.singleton_append, written_append_stop (.inr (.inr rfl)),
      written_append_stop (.inr (.inr rfl)), List.append_assoc]
    rfl
  have opening := @written_append_stop '<' (.inr (.inl rfl)) front (behind ++ rest)
  rw [← split, List.cons_append, opening, written_cons (IsStop.isPlain (.inr (.inl rfl)))]

theorem written_append_blanks {run : List Char} (nonempty : run ≠ [])
    (allBlank : ∀ c ∈ run, Character.isBlank c = true) (front rest : List Char) :
    written (front ++ (run ++ rest)) = written front ++ (run ++ written rest) := by
  rcases List.exists_cons_of_ne_nil nonempty with ⟨c, run, rfl⟩
  rcases List.forall_mem_cons.mp allBlank with ⟨first, others⟩
  rw [List.cons_append, written_append_stop (.inl first),
    Placeholder.written_append fun c member => IsStop.isPlain (.inl (others c member))]
  rfl

section Collapse

variable {word : List Char} {list : List Piece}

theorem collapseRun_pieces_written (afterTag : Bool) (run : List Char) (later : List Piece) :
    collapseRun afterTag run (pieces (written (textOf later))) = collapseRun afterTag run later := by
  have opening : ∀ text : List Char, (text.head? == some '<') = text.head?.any (· == '<') := by
    intro text
    cases text <;> rfl
  have same : (textOf (pieces (written (textOf later)))).head?.any (· == '<') =
      (textOf later).head?.any (· == '<') := by
    rw [textOf_pieces]
    exact head?_written_any (by decide) (textOf later)
  rw [collapseRun, collapseRun, ← textOf, ← textOf]
  simp only [opening, same]

/-- A run of blanks that goes away stands where substitution leaves what is beside it. -/
theorem written_append_collapseRun (cut : IsCut list) (afterTag : Bool) (run : List Char) :
    written (word ++ (collapseRun (afterTag && word.isEmpty) run list ++ collapse false list)) =
      written word ++ (collapseRun (afterTag && word.isEmpty) run list ++
        written (collapse false list)) := by
  rw [collapseRun]
  split
  · rename_i dropped
    rcases Bool.or_eq_true_iff.mp (Bool.and_eq_true_iff.mp dropped).2 with behind | opens
    · have empty := List.isEmpty_iff.mp (Bool.and_eq_true_iff.mp behind).2
      rw [empty]
      rfl
    · have begins := head?_collapse_of_opening cut (eq_of_beq opens)
      rcases List.head?_eq_some_iff.mp begins with ⟨rest, same⟩
      rw [same, List.nil_append, List.nil_append, written_append_stop (.inr (.inl rfl)),
        written_cons (IsStop.isPlain (.inr (.inl rfl)))]
  · have allBlank : ∀ c ∈ [' '], Character.isBlank c = true := by
      intro c member
      rw [List.mem_singleton.mp member]
      decide
    exact written_append_blanks (List.cons_ne_nil _ _) allBlank word _

/-- Collapsing and substitution may be done in either order. `word` is the part of a word that has
been read before the pieces. -/
theorem collapse_pieces_written (cut : IsCut list) (unbroken : IsUnbroken word)
    (afterTag : Bool) :
    collapse afterTag (pieces (written (word ++ textOf list))) =
      written (word ++ collapse (afterTag && word.isEmpty) list) := by
  induction list generalizing word afterTag with
  | nil =>
      have whole := unbroken.written.collapse_pieces afterTag []
      rw [List.append_nil] at whole
      rw [textOf_nil, List.append_nil, whole]
      simp [pieces, piecesAfter, collapse]
  | cons piece later induction =>
      have behind : ∀ afterTag, collapse afterTag (pieces (written (textOf later))) =
          written (collapse afterTag later) := fun afterTag => by
        simpa using @induction [] cut.2 (fun _ member => absurd member List.not_mem_nil) afterTag
      cases piece with
      | raw element =>
          have isElement : IsElement element := cut.1
          have cutOff : pieces (written element ++ written (textOf later)) =
              .raw (written element) :: pieces (written (textOf later)) :=
            @pieces_append (.raw (written element)) _ isElement.written
          rw [textOf_cons, Piece.text, written_append_element isElement,
            unbroken.written.collapse_pieces, cutOff, collapse, behind true, collapse,
            written_append_element isElement]
      | blanks run =>
          rcases cut.1 with ⟨nonempty, allBlank, ends⟩
          have cutOff : pieces (run ++ written (textOf later)) =
              .blanks run :: pieces (written (textOf later)) :=
            @pieces_append (.blanks run) _
              ⟨nonempty, allBlank, (head?_written_any (by decide) _).trans ends⟩
          rw [textOf_cons, Piece.text, written_append_blanks nonempty allBlank,
            unbroken.written.collapse_pieces, cutOff, collapse, behind false,
            isEmpty_written, collapseRun_pieces_written, collapse,
            written_append_collapseRun cut.2]
      | other c =>
          by_cases stops : IsStop c
          · have fits : (Piece.other c).FitsBefore (written (textOf later)) := by
              refine ⟨cut.1.1, fun element isElement begins => ?_⟩
              rcases isElement.exists_cons with ⟨inside, rfl⟩
              rcases List.cons_prefix_cons.mp begins with ⟨rfl, _⟩
              rcases exists_element_of_written ⟨_, isElement, begins⟩ with ⟨other, found⟩
              exact cut.1.2 other found.1 found.2
            have cutOff : pieces (c :: written (textOf later)) =
                .other c :: pieces (written (textOf later)) :=
              pieces_append fits
            rw [textOf_cons, Piece.text, List.singleton_append, written_append_stop stops,
              unbroken.written.collapse_pieces, cutOff, collapse, behind, collapse,
              written_append_stop stops]
          · have longer := induction cut.2 (unbroken.concat stops) afterTag
            have noBracket : (c == '>') = false :=
              beq_false_of_ne fun equal => stops (.inr (.inr equal))
            have nonempty : (word ++ [c]).isEmpty = false := by simp
            rw [nonempty, Bool.and_false, List.append_assoc, List.append_assoc] at longer
            rw [collapse, noBracket]
            exact longer

end Collapse

end Minify

/-! ## Trimming -/

namespace Placeholder

theorem trimStart_written (body : List Char) :
    trimStart (written body) = written (trimStart body) := by
  rcases exists_blanks_append_trimStart body with ⟨blanks, allBlank, whole⟩
  have start : (written (trimStart body)).head?.any Character.isBlank = false :=
    (head?_written_any (by decide) _).trans (head?_trimStart body)
  conv_lhs => rw [whole, written_append fun c member => IsStop.isPlain (.inl (allBlank c member)),
    trimStart_append allBlank, trimStart_of_head start]

theorem getLast?_written_any {body : List Char}
    (last : body.getLast?.any Character.isBlank = false) :
    (written body).getLast?.any Character.isBlank = false := by
  rcases List.eq_nil_or_concat' (written body) with empty | ⟨front, c, equal⟩
  · rw [empty]
    rfl
  · rw [equal, List.getLast?_concat, Option.any_some]
    cases blank : Character.isBlank c with
    | false => rfl
    | true =>
        rcases exists_of_written_eq_append_stop (.inl blank) equal with
          ⟨before, after, rfl, _, nothing⟩
        rw [written_eq_nil_iff] at nothing
        rw [nothing, List.getLast?_concat, Option.any_some, blank] at last
        cases last

theorem written_append_of_blanks {blanks : List Char}
    (allBlank : ∀ c ∈ blanks, Character.isBlank c = true) (front : List Char) :
    written (front ++ blanks) = written front ++ blanks := by
  by_cases empty : blanks = []
  · rw [empty, List.append_nil, List.append_nil]
  · have split := Minify.written_append_blanks empty allBlank front []
    rwa [List.append_nil, show written [] = [] from rfl, List.append_nil] at split

theorem trimEnd_written (body : List Char) : trimEnd (written body) = written (trimEnd body) := by
  rcases exists_trimEnd_append_blanks body with ⟨blanks, allBlank, whole⟩
  have last := getLast?_written_any (getLast?_trimEnd body)
  conv_lhs => rw [whole, written_append_of_blanks allBlank, trimEnd_append allBlank,
    trimEnd_of_last last]

theorem trim_written (body : List Char) : trim (written body) = written (trim body) := by
  rw [trim, trimStart_written, trimEnd_written, trim]

end Placeholder

theorem substitute_minify (body : String) :
    substitute (minify body) = minify (substitute body) := by
  have cut := Minify.isCut_pieces body.toList
  have collapsed := @Minify.collapse_pieces_written [] _ cut (fun _ member => nomatch member) false
  rw [List.nil_append, List.nil_append, Minify.textOf_pieces] at collapsed
  rw [← String.toList_inj, toList_substitute, minify, String.toList_ofList, minify,
    String.toList_ofList, toList_substitute, collapsed, Placeholder.trim_written]
  rfl

/-! ## Templates -/

namespace TemplateClass

def minified (template : TemplateClass) : TemplateClass :=
  { template with body := minify template.body }

/-- The names in the holes of the body, in their order. A body that is no format string has none. -/
def holes? (template : TemplateClass) : Option (List (List Char)) :=
  (FormatString.read? template.body.toList).map (·.filterMap Piece.name?)

end TemplateClass

theorem holes?_compileTemplate (document name : String) (minified : Bool) :
    (compileTemplate document name minified).result.map TemplateClass.holes? =
      (headerFields document).map fun _ =>
        some ((references (stripHeader document).toList).map Identifier.quote) := by
  have holes : (FormatString.read? (substitute (documentBody document minified)).toList).map
      (·.filterMap Piece.name?) =
        some ((references (stripHeader document).toList).map Identifier.quote) := by
    rw [read?_substitute, Option.map_some, filterMap_name?_quoteName, ← references,
      references_documentBody]
  rw [compileTemplate]
  cases headerFields document with
  | error error => rfl
  | ok fields => exact congrArg Except.ok holes

/-- Substitution and minification may be done in either order, and minification leaves the marks of
a body as they are. So a document compiles with minification as it does without, to a template with
the same fields, the body minified, and the holes those of the references in the document. -/
theorem compileTemplate_minified :
    (∀ body, substitute (minify body) = minify (substitute body) ∧
      Placeholder.marks (minify body).toList = Placeholder.marks body.toList) ∧
    ∀ document name,
      (compileTemplate document name true).result =
        (compileTemplate document name false).result.map TemplateClass.minified ∧
      ∀ minified, (compileTemplate document name minified).result.map TemplateClass.holes? =
        (headerFields document).map fun _ =>
          some ((references (stripHeader document).toList).map Identifier.quote) := by
  refine ⟨fun body => ⟨substitute_minify body, marks_minify body⟩, fun document name =>
    ⟨?_, holes?_compileTemplate document name⟩⟩
  have body : substitute (documentBody document true) =
      minify (substitute (documentBody document false)) := by
    rw [documentBody, documentBody, if_pos rfl, if_neg Bool.false_ne_true, substitute_minify]
  rw [compileTemplate, compileTemplate, body]
  cases headerFields document with
  | error error => rfl
  | ok fields => rfl

example : (compileTemplate "\x7ba: b\x7d\n<p>\n @a@ @@\n</p>" "Page" true).result =
    .ok ⟨"Page", [⟨"a", "b"⟩], "<p>\x7ba\x7d @</p>"⟩ := by
  decide +kernel

end Stencil
