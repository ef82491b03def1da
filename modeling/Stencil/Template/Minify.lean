import Stencil.Text.Word
import Stencil.Text.Lines

/-!
White space of a template body. Line breaks with the blanks around them go away beside a tag, and
every other run of blanks becomes one space. The contents of `pre`, `textarea`, `script` and
`style` elements stay as they are.

A body is first cut into pieces: raw elements, runs of blanks, and single other characters.
-/

namespace Stencil.Minify

/-! ## Raw elements -/

def rawTags : List (List Char) :=
  ["pre", "textarea", "script", "style"].map String.toList

/-- The small form under which two tag letters are compared; a dotted capital I counts as `i`. -/
def fold (c : Char) : Char :=
  if c == 'İ' then 'i' else c.toLower

/-- Whether `c` may stand for `letter` in an opening tag. The long s and the dotless i may stand
for `s` and `i`, though they are no other case of them. -/
def opensAs (letter c : Char) : Bool :=
  fold c == letter || (letter == 's' && c == 'ſ') || (letter == 'i' && c == 'ı')

/-- Whether `text` begins with the characters of `tag`, each told by `same`. -/
def beginsWith (same : Char → Char → Bool) : (tag text : List Char) → Bool
  | [], _ => true
  | _ :: _, [] => false
  | letter :: tag, c :: text => same letter c && beginsWith same tag text

/-- The tag, as written, of a raw element whose opening bracket has just been read; a word
character after it would make it another tag. -/
def openedTag? (rest : List Char) : Option (List Char) :=
  (rawTags.find? fun tag =>
    beginsWith opensAs tag rest && !((rest.drop tag.length).head?.any Character.isWord)).map
      fun tag => rest.take tag.length

/-- The length of a closing tag at the head of `text`. -/
def closingLength? (tag text : List Char) : Option Nat :=
  match text with
  | '<' :: '/' :: rest =>
      if beginsWith (fun letter c => fold letter == fold c) tag rest then
        let afterTag := rest.drop tag.length
        let blanks := afterTag.takeWhile Character.isBlank
        if (afterTag.drop blanks.length).head? == some '>' then
          some (tag.length + blanks.length + 3)
        else none
      else none
  | _ => none

/-- The length of the text up to the end of the first closing tag. -/
def lengthToClosing? (tag : List Char) : List Char → Option Nat
  | [] => none
  | c :: rest =>
      match closingLength? tag (c :: rest) with
      | some length => some length
      | none => (lengthToClosing? tag rest).map (· + 1)

/-- The length of a raw element at the head of `text`. An element that is never closed is none. -/
def rawLength? (text : List Char) : Option Nat :=
  match text with
  | '<' :: rest =>
      (openedTag? rest).bind fun tag =>
        (lengthToClosing? tag (rest.drop tag.length)).map (1 + tag.length + ·)
  | _ => none

/-! ## Pieces -/

inductive Piece where
  | raw (element : List Char)
  | blanks (run : List Char)
  | other (c : Char)
deriving DecidableEq, Repr

namespace Piece

def text : Piece → List Char
  | raw element => element
  | blanks run => run
  | other c => [c]

end Piece

/-- The pieces of a text whose first `skip` characters belong to a piece already read. -/
def piecesAfter (skip : Nat) : List Char → List Piece
  | [] => []
  | c :: rest =>
      match skip with
      | skip + 1 => piecesAfter skip rest
      | 0 =>
          match rawLength? (c :: rest) with
          | some length => .raw ((c :: rest).take length) :: piecesAfter (length - 1) rest
          | none =>
              if Character.isBlank c then
                let more := rest.takeWhile Character.isBlank
                .blanks (c :: more) :: piecesAfter more.length rest
              else .other c :: piecesAfter 0 rest

def pieces (text : List Char) : List Piece := piecesAfter 0 text

/-! ## Collapsing -/

/-- What becomes of a run of blanks, given whether a tag ends just before it and what follows. -/
def collapseRun (afterTag : Bool) (run : List Char) (later : List Piece) : List Char :=
  let beforeTag := (later.flatMap Piece.text).head? == some '<'
  if run.contains '\n' && (afterTag || beforeTag) then [] else [' ']

/-- `afterTag` says whether the character just before the pieces closes a tag. -/
def collapse (afterTag : Bool) : List Piece → List Char
  | [] => []
  | .blanks run :: later => collapseRun afterTag run later ++ collapse false later
  | .raw element :: later => element ++ collapse true later
  | .other c :: later => c :: collapse (c == '>') later

end Minify

/-- The body without the white space that does not matter. -/
def minify (body : String) : String :=
  .ofList (trim (Minify.collapse false (Minify.pieces body.toList)))

example : minify "<ul>\n  <li>One  two</li>\n</ul>\n" = "<ul><li>One two</li></ul>" := by
  decide +kernel

example : minify "a\n <PRE> x\n</pre >\n b" = "a<PRE> x\n</pre >b" := by decide +kernel

end Stencil
