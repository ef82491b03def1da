import Stencil.Proofs.Minify.Settle

/-!
What minification does to a body. Outside the raw elements only blanks change, by a rule that looks
at one run and the characters on either side of it, and what it leaves is not changed by it again.
-/

namespace Stencil

namespace Minify

/-! ## Settled pieces -/

/-- Every run of blanks is a single space. -/
def IsSettled (list : List Piece) : Prop :=
  ∀ run, .blanks run ∈ list → run = [' ']

theorem isSettled_settle (afterTag : Bool) (list : List Piece) :
    IsSettled (settle afterTag list) := by
  induction list generalizing afterTag with
  | nil => exact fun _ member => nomatch member
  | cons piece later induction =>
      intro run member
      cases piece with
      | raw element => exact induction true run (by simpa [settle] using member)
      | blanks first =>
          rw [settle] at member
          split at member
          · exact induction false run member
          · rcases List.mem_cons.mp member with equal | further
            · exact Piece.blanks.inj equal
            · exact induction false run further
      | other c => exact induction (c == '>') run (by simpa [settle] using member)

theorem settle_of_isSettled {list : List Piece} (settled : IsSettled list) (afterTag : Bool) :
    settle afterTag list = list := by
  induction list generalizing afterTag with
  | nil => rfl
  | cons piece later induction =>
      have others : IsSettled later := fun run member => settled run (List.mem_cons_of_mem _ member)
      cases piece with
      | raw element => rw [settle, induction others]
      | blanks run =>
          have single : run = [' '] := settled run List.mem_cons_self
          subst single
          rw [settle, if_neg (by simp), induction others]
      | other c => rw [settle, induction others]

/-! ## Ends of a cut -/

theorem IsCut.getLast?_any {list : List Piece} (cut : IsCut list) :
    (textOf list).getLast?.any Character.isBlank = list.getLast?.any Piece.isBlanks := by
  rcases List.eq_nil_or_concat' list with rfl | ⟨earlier, last, rfl⟩
  · rfl
  · have fits := cut.of_append.2.1
    rw [textOf_append, textOf_cons, textOf_nil, List.append_nil, List.getLast?_concat,
      List.getLast?_append_of_ne_nil _ (Piece.text_ne_nil fits), Piece.getLast?_text_any fits]
    rfl

def dropStart : List Piece → List Piece
  | .blanks _ :: later => later
  | list => list

def dropEnd (list : List Piece) : List Piece :=
  if list.getLast?.any Piece.isBlanks then list.dropLast else list

theorem dropStart_suffix (list : List Piece) : dropStart list <:+ list := by
  rw [dropStart.eq_def]
  split
  · exact List.suffix_cons ..
  · exact List.suffix_refl list

theorem dropEnd_isPrefix (list : List Piece) : dropEnd list <+: list := by
  rw [dropEnd]
  split
  · exact List.dropLast_prefix list
  · exact List.prefix_refl list

theorem exists_blanks_cons {list : List Piece} (start : list.head?.any Piece.isBlanks = true) :
    ∃ run later, list = .blanks run :: later := by
  match list with
  | .blanks run :: later => exact ⟨run, later, rfl⟩

theorem exists_append_blanks {list : List Piece}
    (last : list.getLast?.any Piece.isBlanks = true) :
    ∃ earlier run, list = earlier ++ [.blanks run] := by
  rcases List.eq_nil_or_concat' list with rfl | ⟨earlier, piece, rfl⟩
  · cases last
  · rw [List.getLast?_concat] at last
    match piece with
    | .blanks run => exact ⟨earlier, run, rfl⟩

theorem dropStart_of_head {list : List Piece} (start : list.head?.any Piece.isBlanks = false) :
    dropStart list = list := by
  rw [dropStart.eq_def]
  split
  · cases start
  · rfl

theorem dropEnd_of_last {list : List Piece} (last : list.getLast?.any Piece.isBlanks = false) :
    dropEnd list = list := by
  rw [dropEnd, last, if_neg Bool.false_ne_true]

theorem dropEnd_append_blanks (earlier : List Piece) (run : List Char) :
    dropEnd (earlier ++ [.blanks run]) = earlier := by
  rw [dropEnd, List.getLast?_concat, List.dropLast_concat]
  rfl

section Cut

variable {list : List Piece} (cut : IsCut list)

include cut

theorem IsCut.getLast?_of_blanks {earlier : List Piece} {run : List Char}
    (equal : list = earlier ++ [.blanks run]) :
    earlier.getLast?.any Piece.isBlanks = false := by
  subst equal
  rcases List.eq_nil_or_concat' earlier with rfl | ⟨others, piece, rfl⟩
  · rfl
  · rw [List.getLast?_concat]
    match piece with
    | .raw _ | .other _ => rfl
    | .blanks first =>
        rw [List.append_assoc] at cut
        have adjacent := cut.of_append.2.head?_of_blanks
        cases adjacent

theorem IsCut.dropStart : IsCut (dropStart list) := by
  rcases dropStart_suffix list with ⟨earlier, equal⟩
  exact (equal ▸ cut).of_append.2

theorem IsCut.dropEnd : IsCut (dropEnd list) := by
  rcases dropEnd_isPrefix list with ⟨later, equal⟩
  exact (equal ▸ cut).of_append.1

theorem IsCut.head?_dropStart : (Minify.dropStart list).head?.any Piece.isBlanks = false := by
  cases start : list.head?.any Piece.isBlanks with
  | false => rw [dropStart_of_head start, start]
  | true =>
      rcases exists_blanks_cons start with ⟨run, later, rfl⟩
      exact cut.head?_of_blanks

theorem IsCut.getLast?_dropEnd : (Minify.dropEnd list).getLast?.any Piece.isBlanks = false := by
  cases last : list.getLast?.any Piece.isBlanks with
  | false => rw [dropEnd_of_last last, last]
  | true =>
      rcases exists_append_blanks last with ⟨earlier, run, rfl⟩
      rw [dropEnd_append_blanks]
      exact cut.getLast?_of_blanks rfl

theorem IsCut.trimStart : trimStart (textOf list) = textOf (Minify.dropStart list) := by
  cases start : list.head?.any Piece.isBlanks with
  | false =>
      rw [dropStart_of_head start]
      exact trimStart_of_head (cut.head?_any ▸ start)
  | true =>
      rcases exists_blanks_cons start with ⟨run, later, rfl⟩
      have ends := cut.dropStart.head?_any.trans cut.head?_dropStart
      rw [textOf_cons]
      exact (trimStart_append cut.1.2.1 (textOf later)).trans (trimStart_of_head ends)

theorem IsCut.trimEnd : trimEnd (textOf list) = textOf (Minify.dropEnd list) := by
  cases last : list.getLast?.any Piece.isBlanks with
  | false =>
      rw [dropEnd_of_last last]
      exact trimEnd_of_last (cut.getLast?_any ▸ last)
  | true =>
      rcases exists_append_blanks last with ⟨earlier, run, rfl⟩
      have ends := cut.of_append.1.getLast?_any.trans (cut.getLast?_of_blanks rfl)
      rw [dropEnd_append_blanks, textOf_append, textOf_cons, textOf_nil, List.append_nil]
      exact (trimEnd_append cut.of_append.2.1.2.1 _).trans (trimEnd_of_last ends)

end Cut

/-! ## The pieces of a minified body -/

/-- The pieces of a minified body, from those of the body. -/
def minified (list : List Piece) : List Piece :=
  dropEnd (dropStart (settle false list))

section Minified

variable {list : List Piece} (cut : IsCut list)

include cut

theorem isCut_minified : IsCut (minified list) :=
  (isCut_settle cut false).dropStart.dropEnd

theorem head?_minified : (minified list).head?.any Piece.isBlanks = false := by
  have start := (isCut_settle cut false).head?_dropStart
  rcases dropEnd_isPrefix (dropStart (settle false list)) with ⟨later, equal⟩
  rw [minified]
  cases pieces : dropEnd (dropStart (settle false list)) with
  | nil => rfl
  | cons piece others =>
      rw [← equal, pieces] at start
      exact start

theorem getLast?_minified : (minified list).getLast?.any Piece.isBlanks = false :=
  (isCut_settle cut false).dropStart.getLast?_dropEnd

theorem textOf_minified : textOf (minified list) = trim (collapse false list) := by
  have settled := isCut_settle cut false
  rw [trim, ← textOf_settle, settled.trimStart, settled.dropStart.trimEnd, minified]

end Minified

theorem isSettled_minified (list : List Piece) : IsSettled (minified list) := by
  intro run member
  have settled : .blanks run ∈ settle false list :=
    (dropStart_suffix _).subset ((dropEnd_isPrefix _).subset member)
  exact isSettled_settle false list run settled

/-- Pieces that are settled and have no blanks at their ends are minified already. -/
theorem minified_of_isSettled {list : List Piece} (settled : IsSettled list)
    (start : list.head?.any Piece.isBlanks = false)
    (last : list.getLast?.any Piece.isBlanks = false) : minified list = list := by
  rw [minified, settle_of_isSettled settled, dropStart_of_head start, dropEnd_of_last last]

end Minify

theorem toList_minify (body : String) :
    (minify body).toList = Minify.textOf (Minify.minified (Minify.pieces body.toList)) := by
  rw [minify, String.toList_ofList, Minify.textOf_minified (Minify.isCut_pieces body.toList)]

/-- A minified body is not changed by minification. -/
theorem minify_minify (body : String) : minify (minify body) = minify body := by
  have cut := Minify.isCut_pieces body.toList
  have pieces := Minify.pieces_textOf (Minify.isCut_minified cut)
  have again := Minify.minified_of_isSettled (Minify.isSettled_minified _)
    (Minify.head?_minified cut) (Minify.getLast?_minified cut)
  rw [← toList_minify] at pieces
  have texts : (minify (minify body)).toList = (minify body).toList := by
    rw [toList_minify, pieces, again, ← toList_minify]
  exact String.toList_inj.mp texts

end Stencil
