import Stencil.Proofs.Minify.Collapse

/-!
The rule of minification, told without the program: what becomes of each piece of a body, what of
the body stays, and what the result is free of.
-/

namespace Stencil

namespace Minify

/-- What becomes of a piece between the text before it and the text after it. -/
def Piece.collapsed (before after : List Char) : Piece → List Char
  | raw element => element
  | blanks run =>
      if '\n' ∈ run ∧ (before.getLast? = some '>' ∨ after.head? = some '<') then [] else [' ']
  | other c => [c]

/-- Every piece of a cut, as its neighbours let it be. -/
def collapsedPieces (list : List Piece) : List (List Char) :=
  list.mapIdx fun index piece =>
    piece.collapsed (textOf (list.take index)) (textOf (list.drop (index + 1)))

def dropSpace : List Char → List Char
  | ' ' :: rest => rest
  | text => text

/-- A text without the space at its start and the one at its end. -/
def dropSpaces (text : List Char) : List Char :=
  (dropSpace (dropSpace text).reverse).reverse

def Piece.raw? : Piece → Option (List Char)
  | raw element => some element
  | blanks _ | other _ => none

/-- What minification makes of a body that is cut into `list`. -/
structure IsMinified (list : List Piece) (result : List Char) : Prop where
  collapsed : result = dropSpaces (collapsedPieces list).flatten
  sameNonblank : result.filter (!Character.isBlank ·) =
    (textOf list).filter (!Character.isBlank ·)
  /-- The result has the raw elements of the body, and beside them no blanks but single spaces. -/
  exists_cut : ∃ left, IsCut left ∧ textOf left = result ∧
    left.filterMap Piece.raw? = list.filterMap Piece.raw? ∧ IsSettled left
  start : result.head?.any Character.isBlank = false
  last : result.getLast?.any Character.isBlank = false

/-! ## The rule for one piece -/

theorem collapse_cons {piece : Piece} {later : List Piece} (cut : IsCut (piece :: later))
    (before : List Char) :
    collapse (before.getLast? == some '>') (piece :: later) =
      piece.collapsed before (textOf later) ++
        collapse ((before ++ piece.text).getLast? == some '>') later := by
  rw [List.getLast?_append_of_ne_nil _ (Piece.text_ne_nil cut.1)]
  cases piece with
  | raw element =>
      rw [collapse, Piece.text, IsElement.getLast? cut.1, beq_self_eq_true]
      rfl
  | blanks run =>
      have noTag : (run.getLast? == some '>') = false := by
        have blank := Piece.getLast?_text_any cut.1
        apply beq_false_of_ne
        intro equal
        rw [Piece.text, equal] at blank
        cases blank
      rw [collapse, Piece.text, noTag, collapseRun, ← textOf]
      simp [Piece.collapsed]
  | other c =>
      rw [collapse, Piece.text, List.getLast?_singleton, Option.some_beq_some]
      rfl

theorem collapse_eq_flatten (before : List Char) {list : List Piece} (cut : IsCut list) :
    collapse (before.getLast? == some '>') list = (list.mapIdx fun index piece =>
      piece.collapsed (before ++ textOf (list.take index))
        (textOf (list.drop (index + 1)))).flatten := by
  induction list generalizing before with
  | nil => rfl
  | cons piece later induction =>
      rw [collapse_cons cut, induction _ cut.2, List.mapIdx_cons, List.flatten_cons]
      simp

theorem collapse_eq_collapsedPieces {list : List Piece} (cut : IsCut list) :
    collapse false list = (collapsedPieces list).flatten :=
  collapse_eq_flatten [] cut

/-! ## The ends -/

theorem dropSpace_of_head {text : List Char} (start : text.head?.any Character.isBlank = false) :
    dropSpace text = text := by
  rw [dropSpace.eq_def]
  split
  · cases start
  · rfl

section Settled

variable {list : List Piece} (cut : IsCut list) (settled : IsSettled list)

include cut settled

theorem dropSpace_textOf : dropSpace (textOf list) = textOf (dropStart list) := by
  cases start : list.head?.any Piece.isBlanks with
  | false =>
      rw [dropStart_of_head start]
      exact dropSpace_of_head (cut.head?_any ▸ start)
  | true =>
      rcases exists_blanks_cons start with ⟨run, later, rfl⟩
      rw [settled run List.mem_cons_self]
      rfl

theorem dropSpace_reverse_textOf :
    (dropSpace (textOf list).reverse).reverse = textOf (dropEnd list) := by
  cases last : list.getLast?.any Piece.isBlanks with
  | false =>
      rw [dropEnd_of_last last, dropSpace_of_head, List.reverse_reverse]
      rw [List.head?_reverse, cut.getLast?_any, last]
  | true =>
      rcases exists_append_blanks last with ⟨earlier, run, rfl⟩
      rw [settled run (List.mem_append_right _ List.mem_cons_self), dropEnd_append_blanks,
        textOf_append, List.reverse_append]
      exact List.reverse_reverse _

end Settled

theorem textOf_minified_eq {list : List Piece} (cut : IsCut list) :
    textOf (minified list) = dropSpaces (collapsedPieces list).flatten := by
  have settledCut := isCut_settle cut false
  have settled := isSettled_settle false list
  have stillSettled : IsSettled (dropStart (settle false list)) := fun run member =>
    settled run ((dropStart_suffix _).subset member)
  rw [← collapse_eq_collapsedPieces cut, ← textOf_settle, dropSpaces,
    dropSpace_textOf settledCut settled, dropSpace_reverse_textOf settledCut.dropStart stillSettled,
    minified]

/-! ## What stays -/

theorem filter_textOf_settle {list : List Piece} (cut : IsCut list) (afterTag : Bool) :
    (textOf (settle afterTag list)).filter (!Character.isBlank ·) =
      (textOf list).filter (!Character.isBlank ·) := by
  induction list generalizing afterTag with
  | nil => rfl
  | cons piece later induction =>
      have others := induction cut.2
      cases piece with
      | raw element => rw [settle, textOf_cons, List.filter_append, others, ← List.filter_append]; rfl
      | blanks run =>
          have nothing : run.filter (!Character.isBlank ·) = [] := by
            rw [List.filter_eq_nil_iff]
            intro c member
            simp [cut.1.2.1 c member]
          rw [settle, textOf_cons, List.filter_append, Piece.text, nothing, List.nil_append]
          split
          · exact others false
          · exact others false
      | other c => rw [settle, textOf_cons, List.filter_append, others, ← List.filter_append]; rfl

theorem filterMap_raw?_settle (afterTag : Bool) (list : List Piece) :
    (settle afterTag list).filterMap Piece.raw? = list.filterMap Piece.raw? := by
  induction list generalizing afterTag with
  | nil => rfl
  | cons piece later induction =>
      cases piece with
      | raw element => exact congrArg (element :: ·) (induction true)
      | blanks run =>
          rw [settle]
          split
          · exact induction false
          · exact induction false
      | other c => exact induction (c == '>')

theorem filterMap_raw?_dropStart (list : List Piece) :
    (dropStart list).filterMap Piece.raw? = list.filterMap Piece.raw? := by
  rw [dropStart.eq_def]
  split <;> rfl

theorem filterMap_raw?_dropEnd (list : List Piece) :
    (dropEnd list).filterMap Piece.raw? = list.filterMap Piece.raw? := by
  cases last : list.getLast?.any Piece.isBlanks with
  | false => rw [dropEnd_of_last last]
  | true =>
      rcases exists_append_blanks last with ⟨earlier, run, rfl⟩
      rw [dropEnd_append_blanks, List.filterMap_append]
      exact (List.append_nil _).symm

theorem filterMap_raw?_minified (list : List Piece) :
    (minified list).filterMap Piece.raw? = list.filterMap Piece.raw? := by
  rw [minified, filterMap_raw?_dropEnd, filterMap_raw?_dropStart, filterMap_raw?_settle]

end Minify

/-- A body has one cut, and its pieces and their neighbours alone say what minification makes of
it. -/
theorem minify_isMinified (body : String) :
    ∃ list, Minify.IsCut list ∧ Minify.textOf list = body.toList ∧
      (∀ other, Minify.IsCut other → Minify.textOf other = body.toList → other = list) ∧
      Minify.IsMinified list (minify body).toList := by
  have cut := Minify.isCut_pieces body.toList
  have whole := Minify.textOf_pieces body.toList
  refine ⟨Minify.pieces body.toList, cut, whole, ?_, ?_⟩
  · intro other otherCut otherWhole
    rw [← otherWhole, Minify.pieces_textOf otherCut]
  · have left := Minify.isCut_minified cut
    rw [toList_minify]
    constructor
    · exact Minify.textOf_minified_eq cut
    · rw [Minify.textOf_minified cut, filter_trim, ← Minify.textOf_settle,
        Minify.filter_textOf_settle cut]
    · exact ⟨_, left, rfl, Minify.filterMap_raw?_minified _, Minify.isSettled_minified _⟩
    · rw [left.head?_any, Minify.head?_minified cut]
    · rw [left.getLast?_any, Minify.getLast?_minified cut]

end Stencil
