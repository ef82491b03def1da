import Stencil.Text.Word

/-!
Field candidates: every place of a document that has the shape `name: type`. The scan is not
held to the header block, so prose counts as well as declarations.

A colon with a space after it joins the word run that ends before the colon and the word run that
begins after the space. One of the two may be missing. Without a type the name is a candidate only
where the line, the header or the text ends; without a name the type is a candidate only if no
word character stands before the colon. A run that has served as a type is no name, although it
is a word character before the next colon.
-/

namespace Stencil

structure Candidate where
  name : List Char
  type : List Char
deriving DecidableEq, Repr

namespace Candidate

def text (candidate : Candidate) : List Char :=
  candidate.name ++ ':' :: ' ' :: candidate.type

/-- The word run just before the scan's place. -/
inductive Before where
  /-- A run that may serve as a name, the nearest character first; empty after anything that is
  no word character. -/
  | free (reversed : List Char)
  /-- A run whose characters belong to the type of a candidate. -/
  | spent
deriving DecidableEq, Repr

/-- Whether a name without a type still counts in front of `rest`. -/
def endsDeclaration : List Char → Bool
  | [] => true
  | c :: _ => c == '\n' || c == '}'

/-- The candidate that a colon and a space make of the run before them and the text after. -/
def around? (before : Before) (rest : List Char) : Option Candidate :=
  let type := rest.takeWhile Character.isWord
  match before with
  | .spent => none
  | .free [] => if type.isEmpty then none else some ⟨[], type⟩
  | .free reversed =>
      if type.isEmpty && !endsDeclaration rest then none else some ⟨reversed.reverse, type⟩

/-- The run before the place after a colon and a space. -/
def beforeRest : Option Candidate → Before
  | some ⟨_, _ :: _⟩ => .spent
  | _ => .free []

def scan (before : Before) : List Char → List Candidate
  | [] => []
  | ':' :: ' ' :: rest =>
      let found := around? before rest
      found.toList ++ scan (beforeRest found) rest
  | c :: rest =>
      scan
        (if Character.isWord c then
          match before with
          | .free reversed => .free (c :: reversed)
          | .spent => .spent
        else .free [])
        rest

end Candidate

/-- The field candidates of a document, in order. -/
def candidates (document : String) : List Candidate :=
  Candidate.scan (.free []) document.toList

example : (candidates "\x7ba: b, c: d\x7d\n").map Candidate.text = ["a: b", "c: d"].map String.toList := by
  decide +kernel

/-- The first `ba` is a type, so only the second one is a name. -/
example : (candidates "a: ba: ba: b").map Candidate.text =
    ["a: ba", "ba: b"].map String.toList := by
  decide +kernel

end Stencil
