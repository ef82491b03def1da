import Stencil.ClassSource.Lexeme
import Stencil.Proofs.Template.Identifier
import Stencil.Template.Placeholder

/-!
Placeholders and format strings. The scan of a body takes each placeholder and each doubled at sign
for one piece wherever it stands, and reading a format string gives back the pieces it was written
from. A body that spells texts and references is therefore formatted to what they mean.
-/

namespace Stencil

namespace Placeholder

/-- A name as it may stand between two at signs. -/
structure IsName (name : List Char) : Prop where
  nonempty : name ≠ []
  characters : ∀ c ∈ name, isNameCharacter c = true

theorem isName_of_all {name : List Char}
    (checked : (!name.isEmpty && name.all isNameCharacter) = true) : IsName name := by
  rw [Bool.and_eq_true, List.all_eq_true] at checked
  exact ⟨by simpa using checked.1, checked.2⟩

theorem isAscii_of_isNameCharacter {c : Char} (holds : isNameCharacter c = true) :
    Character.IsAscii c := by
  simp only [isNameCharacter, Character.isAsciiLetter, Character.isAsciiDigit, Bool.or_eq_true,
    Bool.and_eq_true, decide_eq_true_eq, beq_iff_eq] at holds
  have bound : ∀ last : Char, last.toNat < 0x80 → c ≤ last → Character.IsAscii c :=
    fun last lastAscii below => Nat.lt_of_le_of_lt below lastAscii
  rcases holds with ((lower | upper) | digit) | underscore
  · exact bound 'z' (by decide) lower.2
  · exact bound 'Z' (by decide) upper.2
  · exact bound '9' (by decide) digit.2
  · subst underscore
    decide

theorem ne_at_of_isNameCharacter {c : Char} (holds : isNameCharacter c = true) : c ≠ '@' := by
  intro equal
  subst equal
  exact absurd holds (by decide)

/-! ## The scan -/

theorem piecesAfter_append (read rest : List Char) :
    piecesAfter read.length (read ++ rest) = pieces rest := by
  induction read with
  | nil => rfl
  | cons c read induction => exact induction

theorem pieces_cons {c : Char} (different : c ≠ '@') (rest : List Char) :
    pieces (c :: rest) = .character c :: pieces rest := by
  simp [pieces, piecesAfter, different]

theorem pieces_escape (rest : List Char) :
    pieces ('@' :: '@' :: rest) = .character '@' :: pieces rest := by
  simp [pieces, piecesAfter]

theorem nameAt?_name {name : List Char} (valid : IsName name) (rest : List Char) :
    nameAt? (name ++ '@' :: rest) = some name := by
  have close : isNameCharacter '@' = false := by decide
  simp [nameAt?, List.takeWhile_append_of_pos valid.characters,
    List.dropWhile_append_of_pos valid.characters, close, valid.nonempty]

theorem pieces_name {name : List Char} (valid : IsName name) (rest : List Char) :
    pieces ('@' :: (name ++ '@' :: rest)) = .field name :: pieces rest := by
  have found := nameAt?_name valid rest
  have later := piecesAfter_append (name ++ ['@']) rest
  rcases List.exists_cons_of_ne_nil valid.nonempty with ⟨c, others, rfl⟩
  have noEscape : c ≠ '@' :=
    ne_at_of_isNameCharacter (valid.characters c (List.mem_cons_self ..))
  simp only [List.cons_append, List.append_assoc, List.nil_append] at found later ⊢
  simpa [pieces, piecesAfter, noEscape, found] using later

end Placeholder

/-! ## Format strings -/

namespace FormatString

/-- A name that a hole can hold. -/
structure IsHole (name : List Char) : Prop where
  nonempty : name ≠ []
  noBrace : ∀ c ∈ name, c ≠ '\x7b' ∧ c ≠ '\x7d'

theorem takeWhile_noBrace {name : List Char} (noBrace : ∀ c ∈ name, c ≠ '\x7b' ∧ c ≠ '\x7d')
    (rest : List Char) :
    (name ++ '\x7d' :: rest).takeWhile (fun c => c != '\x7b' && c != '\x7d') = name := by
  have inside : ∀ c ∈ name, (c != '\x7b' && c != '\x7d') = true := by
    intro c member
    simpa using noBrace c member
  simp [List.takeWhile_append_of_pos inside]

theorem readAfter?_append (read rest : List Char) :
    readAfter? read.length (read ++ rest) = read? rest := by
  induction read with
  | nil => rfl
  | cons c read induction => exact induction

theorem read?_brace {c : Char} (brace : c = '\x7b' ∨ c = '\x7d') (rest : List Char) :
    read? (c :: c :: rest) = (read? rest).map (.character c :: ·) := by
  have later := readAfter?_append [c] rest
  rcases brace with rfl | rfl <;> simp_all [read?, readAfter?]

theorem read?_cons {c : Char} (noBrace : c ≠ '\x7b' ∧ c ≠ '\x7d') (rest : List Char) :
    read? (c :: rest) = (read? rest).map (.character c :: ·) := by
  simp [read?, readAfter?, noBrace]

theorem read?_hole {name : List Char} (hole : IsHole name) (rest : List Char) :
    read? ('\x7b' :: (name ++ '\x7d' :: rest)) = (read? rest).map (.field name :: ·) := by
  have inner := takeWhile_noBrace hole.noBrace rest
  have later := readAfter?_append (name ++ ['\x7d']) rest
  rcases List.exists_cons_of_ne_nil hole.nonempty with ⟨c, others, rfl⟩
  have noEscape : c ≠ '\x7b' := (hole.noBrace c (List.mem_cons_self ..)).1
  simp only [List.cons_append, List.append_assoc, List.nil_append] at inner later ⊢
  rw [read?, readAfter?]
  simp only [inner]
  simpa [noEscape] using congrArg (Option.map (Piece.field (c :: others) :: ·)) later

theorem read?_writePiece {piece : Piece} (holes : ∀ name, piece = .field name → IsHole name)
    (rest : List Char) : read? (writePiece piece ++ rest) = (read? rest).map (piece :: ·) := by
  cases piece with
  | character c =>
      by_cases brace : c = '\x7b' ∨ c = '\x7d'
      · simpa [writePiece, brace] using read?_brace brace rest
      · simpa [writePiece, brace] using read?_cons (not_or.mp brace) rest
  | field name => simpa [writePiece] using read?_hole (holes name rfl) rest

/-- Reading gives back the pieces that were written. -/
theorem read?_write {pieces : List Piece} (holes : ∀ name, .field name ∈ pieces → IsHole name) :
    read? (write pieces) = some pieces := by
  induction pieces with
  | nil => rfl
  | cons piece pieces induction =>
      have first : ∀ name, piece = .field name → IsHole name :=
        fun name equal => holes name (equal ▸ List.mem_cons_self ..)
      have others : ∀ name, .field name ∈ pieces → IsHole name :=
        fun name member => holes name (List.mem_cons_of_mem _ member)
      rw [write, List.flatMap_cons, read?_writePiece first, ← write, induction others]
      rfl

end FormatString
end Stencil
