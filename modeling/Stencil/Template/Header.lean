import Stencil.Template.Candidate
import Stencil.Template.Field

/-!
The header of a template: its field candidates, read as declarations. The text of each candidate is
read again under a stricter form, and the first text without that form ends the header. The first
candidate that lacks its name or its type makes the header malformed, and no later one is looked at.
-/

namespace Stencil

/-- What a malformed header lacks; `ordinal` counts the candidates of the document from one. -/
inductive HeaderError where
  | missingName (ordinal : Nat)
  | missingType (ordinal : Nat)
deriving DecidableEq, Repr

def HeaderError.ordinal : HeaderError → Nat
  | .missingName ordinal | .missingType ordinal => ordinal

def HeaderError.message : HeaderError → String
  | .missingName ordinal =>
      s!"The header is malformed: missing field name on line {ordinal}"
  | .missingType ordinal =>
      s!"The header is malformed: missing type on line {ordinal}"

namespace Candidate

/-- The parts of a text that is a name, a colon with a space, and a type and nothing else; either
part may be empty. A line feed at the end does not count. -/
def capture? (text : List Char) : Option Candidate :=
  let name := text.takeWhile Character.isWord
  match text.drop name.length with
  | ':' :: ' ' :: rest =>
      let type := rest.takeWhile Character.isWord
      if rest.drop type.length == [] || rest.drop type.length == ['\n'] then some ⟨name, type⟩
      else none
  | _ => none

example : ["a: b", ": b", "a: \n"].map (fun text => capture? text.toList) =
    [some ⟨['a'], ['b']⟩, some ⟨[], ['b']⟩, some ⟨['a'], []⟩] := by
  decide +kernel

example : ["a:b", "a: b ", "a b: c"].map (fun text => capture? text.toList) =
    [none, none, none] := by
  decide +kernel

/-- The parts of texts, up to the first that has not the form. -/
def captured : List (List Char) → List Candidate
  | [] => []
  | text :: later =>
      match capture? text with
      | some candidate => candidate :: captured later
      | none => []

def toField (candidate : Candidate) : Field :=
  ⟨.ofList candidate.name, .ofList candidate.type⟩

def declare (ordinal : Nat) (candidate : Candidate) : Except HeaderError Field :=
  if candidate.name.isEmpty then .error (.missingName ordinal)
  else if candidate.type.isEmpty then .error (.missingType ordinal)
  else .ok candidate.toField

/-- Reads candidates as declarations, the first of them under the number `ordinal`. -/
def declareAll (ordinal : Nat) : List Candidate → Except HeaderError (List Field)
  | [] => .ok []
  | candidate :: later =>
      match declare ordinal candidate with
      | .error error => .error error
      | .ok field => (declareAll (ordinal + 1) later).map (field :: ·)

end Candidate

/-- The fields that a document declares. -/
def headerFields (document : String) : Except HeaderError (List Field) :=
  Candidate.declareAll 1 (Candidate.captured ((candidates document).map Candidate.text))

example : (headerFields "\x7ba: b\nc: d\x7d\n").toOption = some [⟨"a", "b"⟩, ⟨"c", "d"⟩] := by
  decide +kernel

end Stencil
