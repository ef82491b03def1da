import Stencil.Proofs.Text.Blank
import Stencil.Text.Printable

/-!
Texts of one line, and how a text is set further in. As long as each of its parts is one line, a
text that is joined from them is set in part by part.
-/

namespace Stencil

namespace Character

def lineEnds : List Char :=
  ['\n', '\r', '\x0b', '\x0c', '\x1c', '\x1d', '\x1e', '\x85', '\u2028', '\u2029']

theorem endsLine_iff {c : Char} : endsLine c = true ↔ c ∈ lineEnds := by
  simp [endsLine, lineEnds, or_assoc]

theorem isBlank_of_endsLine {c : Char} (ends : endsLine c = true) : isBlank c = true :=
  List.all_eq_true.mp (by decide : lineEnds.all isBlank) c (endsLine_iff.mp ends)

theorem endsLine_of_isWord {c : Char} (word : isWord c = true) : endsLine c = false := by
  by_contra ends
  have blank := isBlank_of_endsLine (eq_true_of_ne_false ends)
  rw [isBlank_of_isWord word] at blank
  cases blank

/-- No character that ends a line is printable. -/
theorem endsLine_of_isPrintable {c : Char} (printable : isPrintable c = true) :
    endsLine c = false := by
  by_contra ends
  have listed := endsLine_iff.mp (eq_true_of_ne_false ends)
  have unprintable : lineEnds.all (!isPrintable ·) := by decide +kernel
  have never := List.all_eq_true.mp unprintable c listed
  rw [printable] at never
  cases never

end Character

/-- A text in which no line ends. -/
def IsOneLine (text : List Char) : Prop := ∀ c ∈ text, Character.endsLine c = false

instance (text : List Char) : Decidable (IsOneLine text) :=
  List.decidableBAll (Character.endsLine · = false) text

namespace IsOneLine

variable {text other : List Char}

theorem nil : IsOneLine [] := List.forall_mem_nil _

theorem append (first : IsOneLine text) (second : IsOneLine other) : IsOneLine (text ++ other) :=
  List.forall_mem_append.mpr ⟨first, second⟩

theorem of_words (words : ∀ c ∈ text, Character.isWord c = true) : IsOneLine text :=
  fun c member => Character.endsLine_of_isWord (words c member)

theorem flatMap {α : Type} {items : List α} {write : α → List Char}
    (each : ∀ item ∈ items, IsOneLine (write item)) : IsOneLine (items.flatMap write) := by
  intro c member
  rcases List.mem_flatMap.mp member with ⟨item, listed, inside⟩
  exact each item listed c inside

theorem feed_notMem (single : IsOneLine text) : '\n' ∉ text := by
  intro member
  have ends := single '\n' member
  cases ends

theorem linesWithEnds_eq (single : IsOneLine text) (nonempty : text ≠ []) :
    linesWithEnds text = [text] := by
  induction text with
  | nil => exact absurd rfl nonempty
  | cons c text induction =>
      rcases List.forall_mem_cons.mp single with ⟨first, others⟩
      rw [linesWithEnds, first]
      cases text with
      | nil => rfl
      | cons d text =>
          rw [induction others (List.cons_ne_nil d text)]
          rfl

end IsOneLine

/-! ## Margins -/

/-- A line set further in, unless it is blank. -/
def indentLine (margin line : List Char) : List Char :=
  if line.all Character.isBlank then line else margin ++ line

theorem toList_indentLines {margin text : String} (single : IsOneLine text.toList) :
    (indentLines margin text).toList = indentLine margin.toList text.toList := by
  rw [indentLines, String.toList_ofList]
  cases lines : text.toList with
  | nil => rfl
  | cons c rest =>
      rw [lines] at single
      rw [single.linesWithEnds_eq (List.cons_ne_nil c rest)]
      simp [indentLine]

end Stencil
