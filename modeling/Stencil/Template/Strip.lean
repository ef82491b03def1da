/-!
Removal of the header block. The block runs from the first opening brace to the last closing
brace that a line feed follows, that line feed included; an early pair of braces in the body
therefore takes all the text up to the last such place with it.
-/

namespace Stencil

/-- What comes after the last closing brace that a line feed follows. -/
def afterLastClose? : List Char → Option (List Char)
  | [] => none
  | c :: rest =>
      match afterLastClose? rest, c, rest with
      | some later, _, _ => some later
      | none, '}', '\n' :: later => some later
      | none, _, _ => none

def stripHeaderBlock (document : List Char) : List Char :=
  match document.dropWhile (· != '{') with
  | [] => document
  | _ :: inside =>
      match afterLastClose? inside with
      | some body => document.takeWhile (· != '{') ++ body
      | none => document

/-- The body of a document: all of it but the header block. -/
def stripHeader (document : String) : String :=
  .ofList (stripHeaderBlock document.toList)

example : stripHeader "\x7ba: b\n\x7d\n<p>x</p>" = "<p>x</p>" := by decide

example : stripHeader "x\x7b\x7d\ny\x7b\x7d\nz" = "xz" := by decide

example : stripHeader "\x7d\n\x7b" = "\x7d\n\x7b" := by decide

end Stencil
