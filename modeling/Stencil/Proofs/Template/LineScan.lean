import Stencil.Proofs.Template.Declaring
import Stencil.Proofs.Template.Selection

/-!
The candidate scan line by line. A candidate never reaches over a line feed, and the end of a line
counts as the end of the text does. So the candidates of a document are those of its lines, and
editing a line changes the candidates of that line only.
-/

namespace Stencil

namespace Candidate

variable (before : Before) (text rest : List Char)

/-! ## The text in front of a line feed -/

theorem endsDeclaration_append_feed :
    endsDeclaration (text ++ '\n' :: rest) = endsDeclaration text := by
  cases text <;> rfl

theorem around?_append_feed : around? before (text ++ '\n' :: rest) = around? before text := by
  have run : (text ++ '\n' :: rest).takeWhile Character.isWord = text.takeWhile Character.isWord :=
    takeWhile_append_cons (by decide) text rest
  simp only [around?, run, endsDeclaration_append_feed]

/-! ## Steps of the scan -/

theorem scan_separator :
    scan before (':' :: ' ' :: rest) =
      (around? before rest).toList ++ scan (beforeRest (around? before rest)) rest := by
  rw [scan]

variable {rest} in
theorem scan_cons {c : Char} (noSeparator : ∀ behind, c = ':' → rest = ' ' :: behind → False) :
    scan before (c :: rest) = scan (before.next c) rest := by
  cases before with
  | free reversed =>
      rw [scan, Before.next]
      exact noSeparator
  | spent =>
      rw [scan, Before.next]
      exact noSeparator

/-- A line feed ends all that the scan remembers, so the text behind it is scanned afresh. -/
theorem scan_append_feed :
    scan before (text ++ '\n' :: rest) = scan before text ++ scan (.free []) rest := by
  fun_induction scan before text with
  | case1 before => exact scan_cons_other (by decide) (by decide) before rest
  | case2 before behind found induction =>
      rw [List.cons_append, List.cons_append, scan_separator, around?_append_feed, induction,
        List.append_assoc]
  | case3 before c behind noSeparator induction =>
      -- A colon at the end of the line is followed by the line feed, not by a space.
      have apart : ∀ later, c = ':' → behind ++ '\n' :: rest = ' ' :: later → False := by
        intro later colon meets
        cases behind with
        | nil => cases meets
        | cons d behind => exact noSeparator behind colon (by rw [(List.cons.inj meets).1])
      rw [List.cons_append, scan_cons before apart]
      exact induction

end Candidate

/-! ## Lines -/

theorem candidates_append_feed (first second : String) :
    candidates (first ++ "\n" ++ second) = candidates first ++ candidates second := by
  simp only [candidates, String.toList_append, List.append_assoc]
  exact Candidate.scan_append_feed (.free []) first.toList second.toList

/-- Lines put together have the candidates of each of them, in order. -/
theorem candidates_joinTexts (lines : List String) :
    candidates (joinTexts "\n" lines) = lines.flatMap candidates := by
  induction lines with
  | nil => rfl
  | cons line later induction =>
      cases later with
      | nil => simp [joinTexts, String.intercalate_singleton]
      | cons second later =>
          rw [joinTexts, String.intercalate_cons_of_ne_nil (List.cons_ne_nil second later),
            candidates_append_feed, ← joinTexts, induction, ← List.flatMap_cons]

theorem joinTexts_splitText (separator : Char) (text : String) :
    joinTexts (.singleton separator) (splitText separator text) = text := by
  have pieces : (splitText separator text).map String.toList = splitAt separator text.toList := by
    simp [splitText]
  rw [← String.toList_inj, joinTexts, String.toList_intercalate, pieces, String.toList_singleton,
    intercalate_splitAt]

/-- The candidates of a document are those of its lines, in order. If a line is edited, its
candidates are exchanged for those of the new text, and all others stay. -/
theorem candidates_lineByLine (document : String) :
    candidates document = (splitText '\n' document).flatMap candidates ∧
      ∀ (index : Nat) (edited : String),
        candidates (joinTexts "\n" ((splitText '\n' document).set index edited)) =
          (((splitText '\n' document).map candidates).set index (candidates edited)).flatten := by
  constructor
  · rw [← candidates_joinTexts]
    exact congrArg candidates (joinTexts_splitText '\n' document).symm
  · intro index edited
    rw [candidates_joinTexts, List.flatMap_def, List.map_set]

/-- The name at the end of a line is a candidate, and the word on the next line is not its type. -/
example : (splitText '\n' "a: \nb: c: d").map (fun line => (candidates line).map Candidate.text) =
    [["a: "], ["b: c"]].map (·.map String.toList) := by
  decide +kernel

end Stencil
