import Stencil.Proofs.Template.Scan
import Stencil.Proofs.Text.Blank

/-!
What a body marks with at signs: the doubled ones, each of which stands for one, and the references.
No mark reaches across a character that is neither at sign nor part of a name.
-/

namespace Stencil

def Piece.name? : Piece → Option (List Char)
  | .field name => some name
  | .character _ => none

/-- Quoting keeps the references of a text, under the quoted names. -/
theorem filterMap_name?_quoteName (pieces : List Piece) :
    (pieces.map Piece.quoteName).filterMap Piece.name? =
      (pieces.filterMap Piece.name?).map Identifier.quote := by
  rw [List.filterMap_map, List.map_filterMap]
  apply List.filterMap_congr
  intro piece _
  cases piece <;> rfl

inductive Mark where
  | escape
  | reference (name : List Char)
deriving DecidableEq, Repr

def Mark.name? : Mark → Option (List Char)
  | escape => none
  | reference name => some name

namespace Placeholder

/-- The names of the references of a body, in their order. -/
def references (body : List Char) : List (List Char) :=
  (pieces body).filterMap Piece.name?

example : references "@a@@b@ @@c@ @d e@ @1@".toList = [['a'], ['b'], ['1']] := by decide +kernel

/-- The marks that pieces show in the body they were read from. -/
def marksAlong : (body : List Char) → List Piece → List Mark
  | '@' :: '@' :: rest, .character _ :: later => .escape :: marksAlong rest later
  | _ :: rest, .character _ :: later => marksAlong rest later
  | body, .field name :: later => .reference name :: marksAlong (body.drop (name.length + 2)) later
  | _, _ => []

/-- The marks of a body, in their order. -/
def marks (body : List Char) : List Mark :=
  marksAlong body (pieces body)

example : marks "@@@a@ @b@@@ @ @".toList =
    [.escape, .reference ['a'], .reference ['b'], .escape] := by
  decide +kernel

section Marks

variable {c : Char} {rest : List Char}

theorem marks_escape (rest : List Char) : marks ('@' :: '@' :: rest) = .escape :: marks rest := by
  rw [marks, pieces_escape, marksAlong, marks]

theorem marks_name {name : List Char} (valid : IsName name) (rest : List Char) :
    marks ('@' :: (name ++ '@' :: rest)) = .reference name :: marks rest := by
  have behind : ('@' :: (name ++ '@' :: rest)).drop (name.length + 2) = rest := by
    simp [List.drop_append]
  rw [marks, pieces_name valid, marksAlong, behind, marks]

theorem marks_cons (different : c ≠ '@') (rest : List Char) : marks (c :: rest) = marks rest := by
  rw [marks, pieces_cons different, marksAlong, marks]
  rintro _ rfl
  exact absurd rfl different

theorem marks_lone (noEscape : rest.head? ≠ some '@')
    (noReference : ∀ name behind, IsName name → rest ≠ name ++ '@' :: behind) :
    marks ('@' :: rest) = marks rest := by
  rw [marks, pieces_lone noEscape noReference, marksAlong, marks]
  rintro _ _ rfl
  exact absurd rfl noEscape

theorem Scan.filterMap_name? {body : List Char} {scan : List Piece} (scanned : Scan body scan) :
    scan.filterMap Piece.name? = (marks body).filterMap Mark.name? := by
  induction scanned with
  | nil => rfl
  | escape _ induction => rw [marks_escape]; exact induction
  | reference valid _ induction =>
      rw [marks_name valid]
      exact congrArg _ induction
  | lone noEscape noReference _ induction => rw [marks_lone noEscape noReference]; exact induction
  | other different _ induction => rw [marks_cons different]; exact induction

/-- The references are the marks that are no escapes. -/
theorem references_eq_filterMap_marks (body : List Char) :
    references body = (marks body).filterMap Mark.name? :=
  (scan_pieces body).filterMap_name?

end Marks

/-! ## Bodies cut at a break -/

/-- A character that no mark holds. -/
structure IsBreak (c : Char) : Prop where
  noName : isNameCharacter c = false
  noAt : c ≠ '@'

section Break

variable {c : Char} {front rest : List Char}

theorem noEscape_append (isBreak : IsBreak c) (noEscape : front.head? ≠ some '@') :
    (front ++ c :: rest).head? ≠ some '@' := by
  cases front with
  | nil => simpa using isBreak.noAt
  | cons d front => exact noEscape

theorem noReference_append (isBreak : IsBreak c)
    (noReference : ∀ name behind, IsName name → front ≠ name ++ '@' :: behind) :
    ∀ name behind, IsName name → front ++ c :: rest ≠ name ++ '@' :: behind := by
  intro name behind valid same
  rcases List.append_eq_append_iff.mp same with ⟨middle, reached, left⟩ | ⟨middle, cut, left⟩
  · cases middle with
    | nil =>
        exact isBreak.noAt (List.cons.inj left).1
    | cons d middle =>
        have inName : d ∈ name := by simp [reached]
        rw [← (List.cons.inj left).1] at inName
        have noName := isBreak.noName
        rw [valid.characters c inName] at noName
        cases noName
  · cases middle with
    | nil =>
        exact isBreak.noAt (List.cons.inj left).1.symm
    | cons d middle =>
        rw [List.cons_append, List.cons.injEq] at left
        rw [← left.1] at cut
        exact noReference name middle valid cut

/-- What stands before a break is scanned as if nothing came after it. -/
theorem Scan.append_break (isBreak : IsBreak c) {scan later : List Piece}
    (scanned : Scan front scan) (behind : Scan rest later) :
    Scan (front ++ c :: rest) (scan ++ .character c :: later) := by
  induction scanned with
  | nil => exact .other isBreak.noAt behind
  | escape _ induction => exact .escape induction
  | reference valid _ induction =>
      rw [List.cons_append, List.append_assoc, List.cons_append]
      exact .reference valid induction
  | lone noEscape noReference _ induction =>
      exact .lone (noEscape_append isBreak noEscape) (noReference_append isBreak noReference)
        induction
  | other different _ induction => exact .other different induction

theorem pieces_append_break (isBreak : IsBreak c) :
    pieces (front ++ c :: rest) = pieces front ++ .character c :: pieces rest :=
  ((scan_pieces front).append_break isBreak (scan_pieces rest)).eq_pieces.symm

theorem Scan.marks_append_break (isBreak : IsBreak c) {scan : List Piece}
    (scanned : Scan front scan) : marks (front ++ c :: rest) = marks front ++ marks rest := by
  induction scanned with
  | nil => exact marks_cons isBreak.noAt rest
  | escape _ induction =>
      rw [marks_escape, List.cons_append, List.cons_append, marks_escape, induction,
        List.cons_append]
  | reference valid _ induction =>
      rw [marks_name valid, List.cons_append, List.append_assoc, List.cons_append,
        marks_name valid, induction, List.cons_append]
  | lone noEscape noReference _ induction =>
      rw [marks_lone noEscape noReference, List.cons_append,
        marks_lone (noEscape_append isBreak noEscape) (noReference_append isBreak noReference),
        induction]
  | other different _ induction =>
      rw [marks_cons different, List.cons_append, marks_cons different, induction]

theorem marks_append_break (isBreak : IsBreak c) :
    marks (front ++ c :: rest) = marks front ++ marks rest :=
  (scan_pieces front).marks_append_break isBreak

theorem marks_breaks_append {run : List Char} (breaks : ∀ c ∈ run, IsBreak c) :
    marks (run ++ rest) = marks rest := by
  induction run with
  | nil => rfl
  | cons c run induction =>
      rcases List.forall_mem_cons.mp breaks with ⟨first, others⟩
      rw [List.cons_append, marks_cons first.noAt, induction others]

/-- Where a run of breaks stands, a body is read in two. -/
theorem marks_append_breaks {run : List Char} (nonempty : run ≠ [])
    (breaks : ∀ c ∈ run, IsBreak c) :
    marks (front ++ (run ++ rest)) = marks front ++ marks rest := by
  rcases List.exists_cons_of_ne_nil nonempty with ⟨c, run, rfl⟩
  rcases List.forall_mem_cons.mp breaks with ⟨first, others⟩
  rw [List.cons_append, marks_append_break first, marks_breaks_append others]

theorem marks_append_of_breaks {run : List Char} (breaks : ∀ c ∈ run, IsBreak c)
    (text : List Char) : marks (text ++ run) = marks text := by
  by_cases empty : run = []
  · rw [empty, List.append_nil]
  · have cut : marks (text ++ (run ++ [])) = marks text ++ marks [] :=
      marks_append_breaks empty breaks
    rwa [List.append_nil, show marks [] = [] from rfl, List.append_nil] at cut

end Break

/-! ## Breaks -/

theorem isBreak_of_isBlank {c : Char} (blank : Character.isBlank c = true) : IsBreak c := by
  constructor
  · cases named : isNameCharacter c with
    | false => rfl
    | true =>
        have word : Character.isWord c = true := by
          have ascii : c.toNat < 0x80 := isAscii_of_isNameCharacter named
          rw [Character.isWord, if_pos ascii]
          exact named
        rw [Character.isWord_of_isBlank blank] at word
        cases word
  · rintro rfl
    cases blank

theorem isBreak_opening : IsBreak '<' := ⟨by decide, by decide⟩

theorem isBreak_closing : IsBreak '>' := ⟨by decide, by decide⟩

/-! ## Trimmed bodies -/

theorem marks_trimStart (text : List Char) : marks (trimStart text) = marks text := by
  rcases exists_blanks_append_trimStart text with ⟨blanks, allBlank, whole⟩
  conv_rhs => rw [whole, marks_breaks_append fun c member => isBreak_of_isBlank (allBlank c member)]

theorem marks_trimEnd (text : List Char) : marks (trimEnd text) = marks text := by
  rcases exists_trimEnd_append_blanks text with ⟨blanks, allBlank, whole⟩
  conv_rhs =>
    rw [whole, marks_append_of_breaks fun c member => isBreak_of_isBlank (allBlank c member)]

theorem marks_trim (text : List Char) : marks (trim text) = marks text := by
  rw [trim, marks_trimEnd, marks_trimStart]

end Stencil.Placeholder
