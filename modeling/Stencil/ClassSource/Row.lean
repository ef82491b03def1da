import Stencil.Text.Lines

/-!
Rows of generated source. A row carries its text, the level at which it stands, and those of its
words whose form is not fixed: the names that it uses and the types that it mentions.
-/

namespace Stencil

inductive SourceWord where
  | name (text : String)
  | type (text : String)
deriving DecidableEq, Repr

/-- One row of source, its indentation included in the text. -/
structure Row where
  depth : Nat := 0
  text : String
  words : List SourceWord := []
deriving DecidableEq, Repr

namespace Row

def margin : String := "    "

def blank : Row := { text := "" }

/-- A row that stands `depth` levels in. -/
def line (depth : Nat) (text : String) (words : List SourceWord := []) : Row where
  depth := depth
  text := String.join (List.replicate depth margin) ++ text
  words := words

/-- The row one level further in. A blank row stays as it is. -/
def indent (row : Row) : Row :=
  { row with depth := row.depth + 1, text := indentLines margin row.text }

/-- Puts one blank row between each two blocks. -/
def spaced : List (List Row) → List Row
  | [] => []
  | [block] => block
  | block :: later => block ++ blank :: spaced later

def source (rows : List Row) : String :=
  joinTexts "\n" (rows.map (·.text))

end Row

end Stencil
