import Stencil.Proofs.Template.Placeholder

/-!
The one scan of a body from left to right, as a relation between the body and its pieces. Every
body has exactly one scan, and it is the one that the program makes.
-/

namespace Stencil.Placeholder

/-- A body scanned from left to right. A doubled at sign is one that is text, a name between two at
signs is a reference, and every other character stands for itself, an at sign that begins neither
of the two among them. -/
inductive Scan : List Char → List Piece → Prop where
  | nil : Scan [] []
  | escape {rest : List Char} {later : List Piece} (scanned : Scan rest later) :
      Scan ('@' :: '@' :: rest) (.character '@' :: later)
  | reference {name rest : List Char} {later : List Piece} (valid : IsName name)
      (scanned : Scan rest later) : Scan ('@' :: (name ++ '@' :: rest)) (.field name :: later)
  | lone {rest : List Char} {later : List Piece} (noEscape : rest.head? ≠ some '@')
      (noReference : ∀ name behind, IsName name → rest ≠ name ++ '@' :: behind)
      (scanned : Scan rest later) : Scan ('@' :: rest) (.character '@' :: later)
  | other {c : Char} {rest : List Char} {later : List Piece} (different : c ≠ '@')
      (scanned : Scan rest later) : Scan (c :: rest) (.character c :: later)

theorem nameAt?_eq_some_iff {rest name : List Char} :
    nameAt? rest = some name ↔ IsName name ∧ ∃ behind, rest = name ++ '@' :: behind := by
  constructor
  · intro found
    rw [nameAt?] at found
    split at found
    · rename_i holds
      cases found
      simp only [Bool.and_eq_true, Bool.not_eq_true', List.isEmpty_eq_false_iff, beq_iff_eq]
        at holds
      rcases List.head?_eq_some_iff.mp holds.2 with ⟨behind, left⟩
      refine ⟨⟨holds.1, fun c member => ?_⟩, behind, ?_⟩
      · exact List.all_eq_true.mp List.all_takeWhile c member
      · rw [← left, List.takeWhile_append_dropWhile]
    · cases found
  · rintro ⟨valid, behind, rfl⟩
    exact nameAt?_name valid behind

theorem pieces_lone {rest : List Char} (noEscape : rest.head? ≠ some '@')
    (noReference : ∀ name behind, IsName name → rest ≠ name ++ '@' :: behind) :
    pieces ('@' :: rest) = .character '@' :: pieces rest := by
  have nothing : nameAt? rest = none := by
    cases found : nameAt? rest with
    | none => rfl
    | some name =>
        rcases nameAt?_eq_some_iff.mp found with ⟨valid, behind, equal⟩
        exact absurd equal (noReference name behind valid)
  simp [pieces, piecesAfter, noEscape, nothing]

/-- There is no other scan than that of the program. -/
theorem Scan.eq_pieces {body : List Char} {scan : List Piece} (scanned : Scan body scan) :
    scan = pieces body := by
  induction scanned with
  | nil => rfl
  | escape _ induction => rw [pieces_escape, induction]
  | reference valid _ induction => rw [pieces_name valid, induction]
  | lone noEscape noReference _ induction => rw [pieces_lone noEscape noReference, induction]
  | other different _ induction => rw [pieces_cons different, induction]

/-- Every body has a scan. -/
theorem scan_pieces (body : List Char) : Scan body (pieces body) := by
  match body with
  | [] => exact .nil
  | c :: rest =>
      by_cases different : c ≠ '@'
      · rw [pieces_cons different]
        exact .other different (scan_pieces rest)
      rw [Decidable.not_not] at different
      subst different
      by_cases escape : rest.head? = some '@'
      · rcases List.head?_eq_some_iff.mp escape with ⟨behind, rfl⟩
        rw [pieces_escape]
        exact .escape (scan_pieces behind)
      cases found : nameAt? rest with
      | some name =>
          rcases nameAt?_eq_some_iff.mp found with ⟨valid, behind, rfl⟩
          rw [pieces_name valid]
          exact .reference valid (scan_pieces behind)
      | none =>
          have noReference : ∀ name behind, IsName name → rest ≠ name ++ '@' :: behind := by
            intro name behind valid equal
            rw [nameAt?_eq_some_iff.mpr ⟨valid, behind, equal⟩] at found
            cases found
          rw [pieces_lone escape noReference]
          exact .lone escape noReference (scan_pieces rest)
termination_by body.length
decreasing_by all_goals simp_all <;> omega

theorem Scan.isName {body : List Char} {scan : List Piece} (scanned : Scan body scan) :
    ∀ name, .field name ∈ scan → IsName name := by
  induction scanned with
  | nil => intro name member; cases member
  | reference valid _ induction =>
      intro name member
      rcases List.mem_cons.mp member with equal | member
      · cases equal
        exact valid
      · exact induction name member
  | escape _ induction | lone _ _ _ induction | other _ _ induction =>
      intro name member
      rcases List.mem_cons.mp member with equal | member
      · cases equal
      · exact induction name member

end Stencil.Placeholder
