import Stencil.Proofs.Minify.Cut

/-!
The pieces of a collapsed body. Collapsing takes blanks away only next to a bracket, so it neither
makes a raw element nor destroys one, and what it leaves is again cut where it was cut before.
-/

namespace Stencil.Minify

/-- The pieces that are left of pieces when their runs of blanks collapse; `afterTag` is that of
`collapse`. -/
def settle (afterTag : Bool) : List Piece → List Piece
  | [] => []
  | .blanks run :: later =>
      if run.contains '\n' && (afterTag || (textOf later).head? == some '<') then
        settle false later
      else .blanks [' '] :: settle false later
  | .raw element :: later => .raw element :: settle true later
  | .other c :: later => .other c :: settle (c == '>') later

theorem textOf_settle (afterTag : Bool) (list : List Piece) :
    textOf (settle afterTag list) = collapse afterTag list := by
  induction list generalizing afterTag with
  | nil => rfl
  | cons piece later induction =>
      cases piece with
      | raw element => simp [settle, collapse, Piece.text, induction]
      | blanks run =>
          rw [settle, collapse, collapseRun, ← textOf]
          split <;> simp [Piece.text, induction]
      | other c => simp [settle, collapse, Piece.text, induction]

/-! ## Where pieces begin and end -/

theorem IsCut.head?_any {list : List Piece} (cut : IsCut list) :
    (textOf list).head?.any Character.isBlank = list.head?.any Piece.isBlanks := by
  cases list with
  | nil => rfl
  | cons piece later =>
      rw [textOf_cons, List.head?_append_of_ne_nil _ (Piece.text_ne_nil cut.1),
        Piece.head?_text_any cut.1]
      rfl

theorem IsCut.of_append {earlier later : List Piece} (cut : IsCut (earlier ++ later)) :
    IsCut earlier ∧ IsCut later := by
  induction earlier with
  | nil => exact ⟨trivial, cut⟩
  | cons piece earlier induction =>
      rw [List.cons_append, isCut_cons, textOf_append] at cut
      rcases induction cut.2 with ⟨earlierCut, laterCut⟩
      exact ⟨⟨cut.1.of_append, earlierCut⟩, laterCut⟩

/-- No two runs of blanks stand side by side. -/
theorem IsCut.head?_of_blanks {run : List Char} {later : List Piece}
    (cut : IsCut (.blanks run :: later)) : later.head?.any Piece.isBlanks = false := by
  rw [← cut.2.head?_any]
  exact cut.1.2.2

theorem head?_settle {list : List Piece} (cut : IsCut list)
    (start : list.head?.any Piece.isBlanks = false) (afterTag : Bool) :
    (textOf (settle afterTag list)).head? = (textOf list).head? := by
  cases list with
  | nil => rfl
  | cons piece later =>
      cases piece with
      | raw element =>
          rcases IsElement.exists_cons cut.1 with ⟨behind, rfl⟩
          rfl
      | blanks run => cases start
      | other c => rfl

/-! ## Raw elements stay as they are -/

/-- A character of a settled text that is neither blank nor opens a tag was there before, at the same
place. -/
theorem exists_other {c : Char} {rest : List Char} (noBlank : Character.isBlank c = false)
    (noOpen : c ≠ '<') {list : List Piece} (cut : IsCut list)
    (equal : textOf (settle false list) = c :: rest) :
    ∃ later, list = .other c :: later ∧ textOf (settle (c == '>') later) = rest := by
  cases list with
  | nil => cases equal
  | cons piece later =>
      cases piece with
      | raw element =>
          rcases IsElement.exists_cons cut.1 with ⟨behind, rfl⟩
          rw [settle, textOf_cons, Piece.text, List.cons_append] at equal
          exact absurd (List.cons.inj equal).1.symm noOpen
      | blanks run =>
          rw [settle] at equal
          split at equal
          · rename_i dropped
            have head := head?_settle cut.2 cut.head?_of_blanks false
            rw [equal, List.head?_cons] at head
            simp [← head, noOpen] at dropped
          · rw [textOf_cons, Piece.text, List.singleton_append] at equal
            rw [← (List.cons.inj equal).1] at noBlank
            cases noBlank
      | other d =>
          rw [settle, textOf_cons, Piece.text, List.singleton_append] at equal
          rcases List.cons.inj equal with ⟨rfl, left⟩
          exact ⟨later, rfl, left⟩

theorem exists_others {word rest : List Char}
    (plain : ∀ c ∈ word, Character.isBlank c = false ∧ c ≠ '<' ∧ c ≠ '>') {list : List Piece}
    (cut : IsCut list) (equal : textOf (settle false list) = word ++ rest) :
    ∃ later, list = word.map .other ++ later ∧ textOf (settle false later) = rest := by
  induction word generalizing list with
  | nil => exact ⟨list, rfl, equal⟩
  | cons c word induction =>
      rcases List.forall_mem_cons.mp plain with ⟨⟨noBlank, noOpen, noClose⟩, others⟩
      rcases exists_other noBlank noOpen cut equal with ⟨later, rfl, left⟩
      rw [beq_false_of_ne noClose] at left
      rcases induction others cut.2 left with ⟨behind, rfl, found⟩
      exact ⟨behind, rfl, found⟩

theorem eq_bracket_of_cons_eq {c : Char} (noBlank : Character.isBlank c = false)
    {blanks rest tail : List Char} (allBlank : ∀ c ∈ blanks, Character.isBlank c = true)
    (equal : c :: tail = blanks ++ '>' :: rest) : c = '>' := by
  cases blanks with
  | nil => exact (List.cons.inj equal).1
  | cons d blanks =>
      have blank := allBlank d List.mem_cons_self
      rw [← (List.cons.inj equal).1, noBlank] at blank
      cases blank

/-- A run of blanks before a bracket that ends a tag was a run of blanks before, though perhaps
another one. -/
theorem exists_blanks {blanks rest : List Char}
    (allBlank : ∀ c ∈ blanks, Character.isBlank c = true) {list : List Piece} (cut : IsCut list)
    (equal : textOf (settle false list) = blanks ++ '>' :: rest) :
    ∃ run behind, (∀ c ∈ run, Character.isBlank c = true) ∧
      textOf list = run ++ '>' :: behind := by
  induction list generalizing blanks with
  | nil => simp [settle] at equal
  | cons piece later induction =>
      cases piece with
      | raw element =>
          rcases IsElement.exists_cons cut.1 with ⟨inside, rfl⟩
          rw [settle, textOf_cons, Piece.text, List.cons_append] at equal
          exact absurd (eq_bracket_of_cons_eq (by decide) allBlank equal) (by decide)
      | blanks run =>
          have prepend : ∀ {fewer : List Char}, (∀ c ∈ fewer, Character.isBlank c = true) →
              textOf (settle false later) = fewer ++ '>' :: rest →
              ∃ run' behind, (∀ c ∈ run', Character.isBlank c = true) ∧
                textOf (.blanks run :: later) = run' ++ '>' :: behind := by
            intro fewer fewerBlank left
            rcases induction fewerBlank cut.2 left with ⟨others, behind, othersBlank, found⟩
            refine ⟨run ++ others, behind, List.forall_mem_append.mpr ⟨cut.1.2.1, othersBlank⟩, ?_⟩
            rw [textOf_cons, found, Piece.text, List.append_assoc]
          rw [settle] at equal
          split at equal
          · exact prepend allBlank equal
          · rw [textOf_cons, Piece.text, List.singleton_append] at equal
            cases blanks with
            | nil => exact absurd (List.cons.inj equal).1 (by decide)
            | cons c blanks =>
                exact prepend (List.forall_mem_cons.mp allBlank).2 (List.cons.inj equal).2
      | other d =>
          rw [settle, textOf_cons, Piece.text, List.singleton_append] at equal
          obtain rfl := eq_bracket_of_cons_eq cut.1.1 allBlank equal
          exact ⟨[], textOf later, by simp, rfl⟩

@[simp] theorem textOf_map_other (word : List Char) : textOf (word.map .other) = word := by
  induction word with
  | nil => rfl
  | cons c word induction => rw [List.map_cons, textOf_cons, induction]; rfl

theorem plain_of_words {word : List Char} (words : ∀ c ∈ word, Character.isWord c = true) :
    ∀ c ∈ word, Character.isBlank c = false ∧ c ≠ '<' ∧ c ≠ '>' := by
  intro c member
  have word := words c member
  refine ⟨Character.isBlank_of_isWord word, ?_, ?_⟩
  · rintro rfl
    cases word
  · rintro rfl
    cases word

section Closing

variable {tag closing : List Char} (words : ∀ c ∈ tag, Character.isWord c = true)
  (isClosing : IsClosing tag closing)

include words isClosing

/-- A closing tag does not reach over a bracket that ends another tag. -/
theorem IsClosing.infix_append {front rest : List Char}
    (inside : closing <:+: front ++ '>' :: rest) :
    closing <:+: front ++ ['>'] ∨ closing <:+: rest := by
  induction front with
  | nil =>
      rcases List.infix_cons_iff.mp inside with begins | further
      · have bracket : '>' ∈ ['>'] := List.mem_singleton.mpr rfl
        exact .inl (isClosing.prefix_of_mem words begins bracket).isInfix
      · exact .inr further
  | cons c front induction =>
      rw [List.cons_append] at inside
      rcases List.infix_cons_iff.mp inside with begins | further
      · have bracket : '>' ∈ c :: front ++ ['>'] := by simp
        have whole : c :: (front ++ '>' :: rest) = c :: front ++ ['>'] ++ rest := by simp
        rw [whole] at begins
        exact .inl (isClosing.prefix_of_mem words begins bracket).isInfix
      · rcases induction further with within | behind
        · exact .inl (List.infix_cons within)
        · exact .inr behind

/-- A closing tag at the head of a settled text was one before, with perhaps other blanks. -/
theorem IsClosing.begins_of_settle {list : List Piece} (cut : IsCut list)
    (begins : closing <+: '<' :: textOf (settle false list)) :
    BeginsClosing tag ('<' :: textOf list) := by
  rcases isClosing with ⟨again, blanks, letters, allBlank, rfl⟩
  rcases begins with ⟨rest, whole⟩
  have againWords := forall₂_words letters fun letter inTag c same =>
    isWord_of_fold_eq (words letter inTag) same
  have plain : ∀ c ∈ '/' :: again, Character.isBlank c = false ∧ c ≠ '<' ∧ c ≠ '>' :=
    List.forall_mem_cons.mpr ⟨by decide, plain_of_words againWords⟩
  have inner : textOf (settle false list) = '/' :: again ++ (blanks ++ '>' :: rest) := by
    simpa using whole.symm
  rcases exists_others plain cut inner with ⟨behind, rfl, left⟩
  rcases exists_blanks allBlank cut.of_append.2 left with ⟨run, last, runBlank, found⟩
  refine ⟨_, ⟨again, run, letters, runBlank, rfl⟩, last, ?_⟩
  rw [textOf_append, textOf_map_other, found]
  simp

/-- Settling makes no closing tag. -/
theorem IsClosing.exists_of_settle {list : List Piece} (cut : IsCut list) {afterTag : Bool}
    (inside : closing <:+: textOf (settle afterTag list)) :
    ∃ other, IsClosing tag other ∧ other <:+: textOf list := by
  induction list generalizing afterTag with
  | nil => exact ⟨closing, isClosing, inside⟩
  | cons piece later induction =>
      -- Brackets are not blanks, so a closing tag begins and ends with pieces that stay.
      have beyond : ∀ {afterTag}, closing <:+: textOf (settle afterTag later) →
          ∃ other, IsClosing tag other ∧ other <:+: textOf (piece :: later) := by
        intro afterTag further
        rcases induction cut.2 further with ⟨other, otherClosing, found⟩
        exact ⟨other, otherClosing, found.trans (List.suffix_append ..).isInfix⟩
      cases piece with
      | raw element =>
          rcases List.getLast?_eq_some_iff.mp (IsElement.getLast? cut.1) with ⟨front, rfl⟩
          rw [settle, textOf_cons, Piece.text, List.append_assoc] at inside
          rcases isClosing.infix_append words inside with within | further
          · exact ⟨closing, isClosing, within.trans (List.prefix_append ..).isInfix⟩
          · exact beyond further
      | blanks run =>
          rw [settle] at inside
          split at inside
          · exact beyond inside
          · rcases List.infix_cons_iff.mp inside with begins | further
            · rcases isClosing with ⟨_, _, _, _, rfl⟩
              exact absurd (List.cons_prefix_cons.mp begins).1 (by decide)
            · exact beyond further
      | other c =>
          rw [settle, textOf_cons, Piece.text, List.singleton_append] at inside
          rcases List.infix_cons_iff.mp inside with begins | further
          · rcases List.head?_eq_some_iff.mp isClosing.head? with ⟨inside, rfl⟩
            rcases List.cons_prefix_cons.mp begins with ⟨rfl, _⟩
            rcases isClosing.begins_of_settle words cut.2 begins with ⟨other, otherClosing, found⟩
            exact ⟨other, otherClosing, found.isInfix⟩
          · exact beyond further

end Closing

theorem boundary_of_settle {list : List Piece} (cut : IsCut list) {afterTag : Bool}
    (boundary : (textOf (settle afterTag list)).head?.any Character.isWord = false) :
    (textOf list).head?.any Character.isWord = false := by
  by_cases start : list.head?.any Piece.isBlanks = false
  · rwa [head?_settle cut start] at boundary
  · rw [← cut.head?_any] at start
    cases head : (textOf list).head? with
    | none => rfl
    | some c =>
        rw [head] at start
        exact Character.isWord_of_isBlank (by simpa using start)

/-- A cut that is settled is a cut of what is left. -/
theorem isCut_settle {list : List Piece} (cut : IsCut list) (afterTag : Bool) :
    IsCut (settle afterTag list) := by
  induction list generalizing afterTag with
  | nil => trivial
  | cons piece later induction =>
      cases piece with
      | raw element => exact ⟨cut.1, induction cut.2 true⟩
      | blanks run =>
          rw [settle]
          split
          · exact induction cut.2 false
          · refine ⟨⟨List.cons_ne_nil ' ' [], ?_, ?_⟩, induction cut.2 false⟩
            · exact List.forall_mem_singleton.mpr (by decide)
            · rw [head?_settle cut.2 cut.head?_of_blanks, cut.2.head?_any]
              exact cut.head?_of_blanks
      | other c =>
          refine ⟨⟨cut.1.1, fun element isElement begins => ?_⟩, induction cut.2 (c == '>')⟩
          -- An element that opens here now has its tag, its boundary and a closing tag from the
          -- body, where they made an element as well.
          rcases isElement.exists_cons with ⟨inside, rfl⟩
          rcases List.cons_prefix_cons.mp begins with ⟨rfl, _⟩
          rw [beq_false_of_ne (by decide)] at begins
          rcases exists_element_iff.mp ⟨_, isElement, begins⟩ with
            ⟨tag, rest, closing, isTag, equal, boundary, isClosing, found⟩
          rcases exists_others (plain_of_words isTag.words) cut.2 equal with ⟨behind, rfl, rfl⟩
          rcases isClosing.exists_of_settle isTag.words cut.2.of_append.2 found with
            ⟨other, otherClosing, otherFound⟩
          have opened := exists_element_iff.mpr ⟨tag, textOf behind, other, isTag, rfl,
            boundary_of_settle cut.2.of_append.2 boundary, otherClosing, otherFound⟩
          rcases opened with ⟨original, isOriginal, originalBegins⟩
          refine cut.1.2 original isOriginal ?_
          rwa [textOf_append, textOf_map_other]

end Stencil.Minify
