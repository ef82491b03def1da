import Stencil.Proofs.Minify.Settle
import Stencil.Proofs.Template.Mark
import Stencil.Template.Compile

/-!
Minification leaves the marks of a body alone. No mark reaches across a blank or a bracket of a tag,
and minification takes blanks away only at the ends of a body, beside other blanks and beside such
a bracket.
-/

namespace Stencil

namespace Minify

open Placeholder

section Collapse

variable {list : List Piece}

/-- What collapses behind a bracket that opens a tag begins with that bracket too. -/
theorem head?_collapse_of_opening (cut : IsCut list) (opens : (textOf list).head? = some '<') :
    (collapse false list).head? = some '<' := by
  have noBlanks : list.head?.any Piece.isBlanks = false := by
    rw [← cut.head?_any, opens]
    rfl
  rw [← textOf_settle, head?_settle cut noBlanks, opens]

/-- A run of blanks that goes away stands beside the bracket of a tag, where no mark is cut. -/
theorem marks_beside_bracket (cut : IsCut list) {front : List Char}
    (beside : front.getLast? = some '>' ∨ (textOf list).head? = some '<') :
    marks (front ++ collapse false list) = marks front ++ marks (collapse false list) := by
  rcases beside with last | opens
  · rcases List.getLast?_eq_some_iff.mp last with ⟨before, rfl⟩
    have ended : marks (before ++ ['>']) = marks before ++ marks [] :=
      marks_append_break isBreak_closing
    rw [ended, List.append_assoc, List.singleton_append, marks_append_break isBreak_closing,
      show marks [] = [] from rfl, List.append_nil]
  · rcases List.head?_eq_some_iff.mp (head?_collapse_of_opening cut opens) with ⟨behind, same⟩
    rw [same, marks_append_break isBreak_opening, marks_cons isBreak_opening.noAt]

theorem marks_collapse (cut : IsCut list) (front : List Char) :
    marks (front ++ collapse (front.getLast? == some '>') list) =
      marks (front ++ textOf list) := by
  induction list generalizing front with
  | nil => rfl
  | cons piece later induction =>
      cases piece with
      | raw element =>
          have next := induction cut.2 (front ++ element)
          have nonempty : element ≠ [] := Piece.text_ne_nil cut.1
          rw [List.getLast?_append_of_ne_nil _ nonempty, IsElement.getLast? cut.1,
            beq_self_eq_true, List.append_assoc, List.append_assoc] at next
          exact next
      | other c =>
          have next := induction cut.2 (front ++ [c])
          rw [List.getLast?_append_of_ne_nil _ (List.cons_ne_nil c []), List.append_assoc,
            List.append_assoc] at next
          exact next
      | blanks run =>
          have breaks : ∀ c ∈ run, IsBreak c := fun c member =>
            isBreak_of_isBlank (cut.1.2.1 c member)
          have apart : marks (front ++ textOf (.blanks run :: later)) =
              marks front ++ marks (textOf later) :=
            marks_append_breaks cut.1.1 breaks
          have behind : marks (collapse false later) = marks (textOf later) :=
            induction cut.2 []
          rw [apart, ← behind, collapse, collapseRun]
          split
          · rename_i dropped
            apply marks_beside_bracket cut.2
            simpa [textOf] using (Bool.and_eq_true_iff.mp dropped).2
          · exact marks_append_break (isBreak_of_isBlank (by decide))

end Collapse

end Minify

/-- Minification leaves the marks of a body and their order. -/
theorem marks_minify (body : String) :
    Placeholder.marks (minify body).toList = Placeholder.marks body.toList := by
  have collapsed := Minify.marks_collapse (Minify.isCut_pieces body.toList) []
  rw [Minify.textOf_pieces, List.nil_append, List.nil_append, List.getLast?_nil,
    show ((none : Option Char) == some '>') = false from rfl] at collapsed
  rw [minify, String.toList_ofList, Placeholder.marks_trim, collapsed]

theorem references_documentBody (document : String) (minified : Bool) :
    Placeholder.references (documentBody document minified).toList =
      Placeholder.references (stripHeader document).toList := by
  cases minified with
  | false => rfl
  | true =>
      rw [documentBody, if_pos rfl, Placeholder.references_eq_filterMap_marks, marks_minify,
        ← Placeholder.references_eq_filterMap_marks]

end Stencil
