import Stencil.Proofs.Minify.RawElement

/-!
The cut of a body into pieces, as a condition on the pieces alone. Every text has exactly one cut,
and it is the one that the program makes.
-/

namespace Stencil.Minify

/-- The text that pieces make when they are put together again. -/
def textOf (pieces : List Piece) : List Char :=
  pieces.flatMap Piece.text

@[simp] theorem textOf_nil : textOf [] = [] := rfl

@[simp] theorem textOf_cons (piece : Piece) (later : List Piece) :
    textOf (piece :: later) = piece.text ++ textOf later := rfl

@[simp] theorem textOf_append (earlier later : List Piece) :
    textOf (earlier ++ later) = textOf earlier ++ textOf later :=
  List.flatMap_append

namespace Piece

def isBlanks : Piece → Bool
  | blanks _ => true
  | _ => false

/-- What a piece has to be when `rest` comes after it: a raw element, a whole run of blanks, or a
character at which neither of the two begins. -/
def FitsBefore (rest : List Char) : Piece → Prop
  | raw element => IsElement element
  | blanks run =>
      run ≠ [] ∧ (∀ c ∈ run, Character.isBlank c = true) ∧
        rest.head?.any Character.isBlank = false
  | other c =>
      Character.isBlank c = false ∧ ∀ element, IsElement element → ¬element <+: c :: rest

variable {piece : Piece} {rest : List Char}

theorem text_ne_nil (fits : piece.FitsBefore rest) : piece.text ≠ [] := by
  cases piece with
  | raw element =>
      rcases IsElement.exists_cons fits with ⟨behind, rfl⟩
      exact List.cons_ne_nil _ behind
  | blanks run => exact fits.1
  | other c => exact List.cons_ne_nil c []

theorem head?_text_any (fits : piece.FitsBefore rest) :
    piece.text.head?.any Character.isBlank = piece.isBlanks := by
  cases piece with
  | raw element =>
      rcases IsElement.exists_cons fits with ⟨behind, rfl⟩
      exact (by decide : Character.isBlank '<' = false)
  | blanks run =>
      rcases List.exists_cons_of_ne_nil fits.1 with ⟨c, behind, rfl⟩
      exact fits.2.1 c List.mem_cons_self
  | other c => exact fits.1

theorem getLast?_text_any (fits : piece.FitsBefore rest) :
    piece.text.getLast?.any Character.isBlank = piece.isBlanks := by
  cases piece with
  | raw element =>
      rw [text, IsElement.getLast? fits]
      exact (by decide : Character.isBlank '>' = false)
  | blanks run =>
      rw [text, List.getLast?_eq_some_getLast fits.1]
      exact fits.2.1 _ (List.getLast_mem fits.1)
  | other c => exact fits.1

/-- A piece that fits still fits when less comes after it. -/
theorem FitsBefore.of_append {later : List Char} (fits : piece.FitsBefore (rest ++ later)) :
    piece.FitsBefore rest := by
  cases piece with
  | raw element => exact fits
  | blanks run =>
      refine ⟨fits.1, fits.2.1, ?_⟩
      cases rest with
      | nil => rfl
      | cons c rest => exact fits.2.2
  | other c =>
      refine ⟨fits.1, fun element isElement begins => fits.2 element isElement ?_⟩
      exact begins.trans (List.prefix_append (c :: rest) later)

end Piece

/-- Every piece is the one to take off the head of the text that it and those behind it make. -/
def IsCut : List Piece → Prop
  | [] => True
  | piece :: later => piece.FitsBefore (textOf later) ∧ IsCut later

@[simp] theorem isCut_cons {piece : Piece} {later : List Piece} :
    IsCut (piece :: later) ↔ piece.FitsBefore (textOf later) ∧ IsCut later :=
  Iff.rfl

/-! ## One cut only -/

theorem piecesAfter_append (read rest : List Char) :
    piecesAfter read.length (read ++ rest) = pieces rest := by
  induction read with
  | nil => rfl
  | cons c read induction => exact induction

theorem pieces_append {piece : Piece} {rest : List Char} (fits : piece.FitsBefore rest) :
    pieces (piece.text ++ rest) = piece :: pieces rest := by
  cases piece with
  | raw element =>
      have found : rawLength? (element ++ rest) = some element.length :=
        rawLength?_eq_some_iff.mpr ⟨element, fits, List.prefix_append .., rfl⟩
      have later := piecesAfter_append element.tail rest
      rcases IsElement.exists_cons fits with ⟨behind, rfl⟩
      simp only [Piece.text, List.cons_append, List.tail_cons] at found later ⊢
      have taken : ('<' :: (behind ++ rest)).take ('<' :: behind).length = '<' :: behind :=
        List.take_left
      simp only [pieces, piecesAfter, found, taken]
      rw [List.length_cons, Nat.add_sub_cancel, later, pieces]
  | blanks run =>
      rcases fits with ⟨nonempty, allBlank, ends⟩
      have later := piecesAfter_append run.tail rest
      rcases List.exists_cons_of_ne_nil nonempty with ⟨c, behind, rfl⟩
      rcases List.forall_mem_cons.mp allBlank with ⟨firstBlank, othersBlank⟩
      have noElement : rawLength? (c :: (behind ++ rest)) = none := by
        have noBracket : c ≠ '<' := by
          rintro rfl
          exact absurd firstBlank (by decide)
        simp [rawLength?, noBracket]
      have run := takeWhile_run othersBlank ends
      simp only [Piece.text, List.cons_append, List.tail_cons] at later ⊢
      simp only [pieces, piecesAfter, noElement, firstBlank, if_true, run, later]
  | other c =>
      have noElement := rawLength?_eq_none_iff.mpr fits.2
      simp [pieces, piecesAfter, Piece.text, noElement, fits.1]

/-- There is no other cut than that of the program. -/
theorem pieces_textOf {list : List Piece} (cut : IsCut list) : pieces (textOf list) = list := by
  induction list with
  | nil => rfl
  | cons piece later induction =>
      rw [textOf_cons, pieces_append cut.1, induction cut.2]

theorem isCut_piecesAfter (skip : Nat) (text : List Char) :
    IsCut (piecesAfter skip text) ∧ textOf (piecesAfter skip text) = text.drop skip := by
  induction text generalizing skip with
  | nil => simp [piecesAfter, IsCut]
  | cons c rest induction =>
      cases skip with
      | succ skip => exact induction skip
      | zero =>
          rw [piecesAfter]
          cases found : rawLength? (c :: rest) with
          | some length =>
              rcases rawLength?_eq_some_iff.mp found with ⟨element, isElement, begins, rfl⟩
              rcases begins with ⟨behind, whole⟩
              rcases isElement.exists_cons with ⟨inside, rfl⟩
              rw [List.cons_append] at whole
              rcases List.cons.inj whole with ⟨rfl, rfl⟩
              have skipped := induction inside.length
              rw [List.drop_left] at skipped
              have taken : ('<' :: (inside ++ behind)).take ('<' :: inside).length =
                '<' :: inside := List.take_left
              simp only [List.length_cons, Nat.add_sub_cancel] at taken ⊢
              simp [skipped, taken, Piece.FitsBefore, isElement, Piece.text]
          | none =>
              have noElement := rawLength?_eq_none_iff.mp found
              cases blank : Character.isBlank c with
              | true =>
                  have skipped := induction (rest.takeWhile Character.isBlank).length
                  rw [drop_length_takeWhile] at skipped
                  have ends := head?_dropWhile_any Character.isBlank rest
                  have run : ∀ d ∈ rest.takeWhile Character.isBlank, Character.isBlank d = true :=
                    fun d member => List.all_eq_true.mp List.all_takeWhile d member
                  simpa [blank, skipped, Piece.FitsBefore, Piece.text, ends] using run
              | false =>
                  have skipped := induction 0
                  simpa [blank, skipped, Piece.FitsBefore, Piece.text] using noElement

theorem isCut_pieces (text : List Char) : IsCut (pieces text) :=
  (isCut_piecesAfter 0 text).1

theorem textOf_pieces (text : List Char) : textOf (pieces text) = text :=
  (isCut_piecesAfter 0 text).2

end Stencil.Minify
