import Stencil.Text.Blank

/-!
Cutting a text at a character or at its line ends, and joining the pieces again. Every cut keeps
all the text: joining the pieces of a cut gives back what was cut.
-/

namespace Stencil

/-- Adds a character at the front of the first piece. -/
def extendFirst (c : Char) : List (List Char) → List (List Char)
  | [] => [[c]]
  | piece :: pieces => (c :: piece) :: pieces

/-- The pieces between the occurrences of `separator`; always one more than there are of these. -/
def splitAt (separator : Char) : List Char → List (List Char)
  | [] => [[]]
  | c :: rest =>
      if c == separator then [] :: splitAt separator rest
      else extendFirst c (splitAt separator rest)

example : splitAt '.' "a.b.".toList = [['a'], ['b'], []] := rfl

def splitText (separator : Char) (text : String) : List String :=
  (splitAt separator text.toList).map .ofList

example : splitText '/' "a//b" = ["a", "", "b"] := by decide

theorem splitAt_ne_nil (separator : Char) (text : List Char) : splitAt separator text ≠ [] := by
  cases text with
  | nil => simp [splitAt]
  | cons c rest =>
      simp only [splitAt]
      split
      · simp
      · cases splitAt separator rest <;> simp [extendFirst]

theorem intercalate_splitAt (separator : Char) (text : List Char) :
    [separator].intercalate (splitAt separator text) = text := by
  induction text with
  | nil => rfl
  | cons c rest induction =>
      obtain ⟨piece, pieces, pieces_eq⟩ := List.exists_cons_of_ne_nil (splitAt_ne_nil separator rest)
      rw [pieces_eq] at induction
      rw [splitAt, pieces_eq]
      split
      · rename_i equal
        rw [← induction, eq_of_beq equal]
        simp [List.intercalate]
      · rw [← induction]
        cases pieces <;> simp [List.intercalate, extendFirst]

def joinTexts (separator : String) (pieces : List String) : String :=
  separator.intercalate pieces

/-! ## Line ends -/

/-- Whether a line ends at `c`. Beside the line feed and the carriage return these are the
vertical tab, the form feed, three of the information separators, the next-line control and the
two line separators beyond Latin. -/
def Character.endsLine (c : Char) : Bool :=
  c == '\n' || c == '\r' || c == '\x0b' || c == '\x0c' || c == '\x1c' || c == '\x1d' ||
    c == '\x1e' || c == '\x85' || c == '\u2028' || c == '\u2029'

/-- The lines of a text with their ends. A carriage return before a line feed is one end with
it, and a text that ends in a line end has no empty line after it. -/
def linesWithEnds : List Char → List (List Char)
  | [] => []
  | c :: rest =>
      if Character.endsLine c && !(c == '\r' && rest.head? == some '\n') then
        [c] :: linesWithEnds rest
      else extendFirst c (linesWithEnds rest)

theorem flatten_extendFirst (c : Char) (pieces : List (List Char)) :
    (extendFirst c pieces).flatten = c :: pieces.flatten := by
  cases pieces <;> rfl

theorem flatten_linesWithEnds (text : List Char) : (linesWithEnds text).flatten = text := by
  induction text with
  | nil => rfl
  | cons c rest induction =>
      rw [linesWithEnds]
      split
      · rw [List.flatten_cons, induction, List.singleton_append]
      · rw [flatten_extendFirst, induction]

example : linesWithEnds "a\r\nb\n\nc".toList = ["a\r\n", "b\n", "\n", "c"].map String.toList := by
  decide

/-- The lines of a text without their ends. -/
def lines (text : String) : List String :=
  (linesWithEnds text.toList).map fun line =>
    .ofList (line.takeWhile fun c => !Character.endsLine c)

example : lines "a\r\nb\x0bc\n" = ["a", "b", "c"] := by decide

/-- Every kind of line end that a text file may use, read as a line feed. -/
def unifyLineEnds : List Char → List Char
  | [] => []
  | '\r' :: '\n' :: rest => '\n' :: unifyLineEnds rest
  | '\r' :: rest => '\n' :: unifyLineEnds rest
  | c :: rest => c :: unifyLineEnds rest

example : unifyLineEnds "a\r\nb\rc\n".toList = "a\nb\nc\n".toList := by decide +kernel

/-- Sets every line that is not blank further in by `margin`. -/
def indentLines (margin : String) (text : String) : String :=
  .ofList ((linesWithEnds text.toList).flatMap fun line =>
    if line.all Character.isBlank then line else margin.toList ++ line)

example : indentLines "  " "a\n\n b" = "  a\n\n   b" := by decide

/-! ## Ends of a text -/

def trimStart (text : List Char) : List Char :=
  text.dropWhile Character.isBlank

def trimEnd (text : List Char) : List Char :=
  (text.reverse.dropWhile Character.isBlank).reverse

def trim (text : List Char) : List Char :=
  trimEnd (trimStart text)

example : trim " a b\n".toList = "a b".toList := by decide

end Stencil
