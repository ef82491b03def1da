import Stencil.Template.Identifier

/-!
Placeholders of a template body. `@@` stands for one at sign and `@name@` for the value of a
field; every other character stands for itself. A body is turned into a format string, in
which a brace that is text is doubled and the identifier of a field stands between single braces.
-/

namespace Stencil

/-- One unit of a text with holes. -/
inductive Piece where
  | character (c : Char)
  | field (name : List Char)
deriving DecidableEq, Repr

namespace Placeholder

def isNameCharacter (c : Char) : Bool :=
  Character.isAsciiLetter c || Character.isAsciiDigit c || c == '_'

/-- The name of a placeholder whose first at sign has just been read. -/
def nameAt? (rest : List Char) : Option (List Char) :=
  let name := rest.takeWhile isNameCharacter
  if !name.isEmpty && (rest.dropWhile isNameCharacter).head? == some '@' then some name else none

/-- The pieces of a body whose first `skip` characters belong to a piece already read. -/
def piecesAfter (skip : Nat) : List Char → List Piece
  | [] => []
  | c :: rest =>
      match skip with
      | skip + 1 => piecesAfter skip rest
      | 0 =>
          if c != '@' then .character c :: piecesAfter 0 rest
          else if rest.head? == some '@' then .character '@' :: piecesAfter 1 rest
          else match nameAt? rest with
          | some name => .field name :: piecesAfter (name.length + 1) rest
          | none => .character '@' :: piecesAfter 0 rest

/-- The body read once from left to right. -/
def pieces (body : List Char) : List Piece := piecesAfter 0 body

end Placeholder

/-! ## Format strings -/

namespace FormatString

def writePiece : Piece → List Char
  | .character c => if c == '{' || c == '}' then [c, c] else [c]
  | .field name => '{' :: name ++ ['}']

def write (pieces : List Piece) : List Char :=
  pieces.flatMap writePiece

/-- Reads a format string; the first `skip` characters belong to a piece already read. A single
brace must open a hole that is closed again, and a hole holds no brace. -/
def readAfter? (skip : Nat) : List Char → Option (List Piece)
  | [] => some []
  | c :: rest =>
      match skip with
      | skip + 1 => readAfter? skip rest
      | 0 =>
          if c == '{' then
            if rest.head? == some '{' then (readAfter? 1 rest).map (.character '{' :: ·)
            else
              let name := rest.takeWhile fun c => c != '{' && c != '}'
              if (rest.drop name.length).head? == some '}' && !name.isEmpty then
                (readAfter? (name.length + 1) rest).map (.field name :: ·)
              else none
          else if c == '}' then
            if rest.head? == some '}' then (readAfter? 1 rest).map (.character '}' :: ·)
            else none
          else (readAfter? 0 rest).map (.character c :: ·)

def read? (text : List Char) : Option (List Piece) := readAfter? 0 text

end FormatString

namespace Piece

/-- A placeholder refers to the field whose identifier its name quotes to. -/
def quoteName : Piece → Piece
  | .field name => .field (Identifier.quote name)
  | piece => piece

/-- Fills the holes of a text. The first name without a value is the error. -/
def fill (value? : List Char → Option (List Char)) : List Piece → Except (List Char) (List Char)
  | [] => .ok []
  | .character c :: later => (fill value? later).map (c :: ·)
  | .field name :: later =>
      match value? name with
      | none => .error name
      | some value => (fill value? later).map (value ++ ·)

end Piece

/-- The format string of a template body. -/
def substitute (body : String) : String :=
  .ofList (FormatString.write ((Placeholder.pieces body.toList).map Piece.quoteName))

example : substitute "<p>@greeting@, \x7byou\x7d@@home</p>" = "<p>\x7bgreeting\x7d, \x7b\x7byou\x7d\x7d@home</p>" := by
  decide +kernel

example : substitute "@@@class@ @ @1@" = "@\x7bclass_\x7d @ \x7b_1\x7d" := by decide +kernel

end Stencil
