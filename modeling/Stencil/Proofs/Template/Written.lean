import Stencil.Proofs.Template.Formatting
import Stencil.Proofs.Template.Mark

/-!
The text of a format string, character by character. Substitution writes marks and braces anew and
leaves every other character where it is, and it makes no blank and no bracket of a tag. So a body
and its format string have these at the same places between the words.
-/

namespace Stencil.Placeholder

/-- The text that substitution makes of a body. -/
def written (body : List Char) : List Char :=
  FormatString.write ((pieces body).map Piece.quoteName)

theorem toList_substitute (body : String) : (substitute body).toList = written body.toList :=
  String.toList_ofList

/-- A character that substitution leaves as it is. -/
structure IsPlain (c : Char) : Prop where
  noAt : c ≠ '@'
  noBrace : c ≠ '\x7b' ∧ c ≠ '\x7d'

/-- A character that ends the word before it: a blank, or a bracket of a tag. -/
def IsStop (c : Char) : Prop :=
  Character.isBlank c = true ∨ c = '<' ∨ c = '>'

instance : DecidablePred IsStop := fun c =>
  inferInstanceAs (Decidable (Character.isBlank c = true ∨ c = '<' ∨ c = '>'))

section Stop

variable {c : Char}

theorem IsStop.isBreak (stops : IsStop c) : IsBreak c := by
  rcases stops with blank | rfl | rfl
  · exact isBreak_of_isBlank blank
  · exact isBreak_opening
  · exact isBreak_closing

theorem isPlain_of_class {inClass : Char → Bool} (holds : inClass c = true)
    (specials : ['@', '\x7b', '\x7d'].any inClass = false) : IsPlain c := by
  have different : ∀ special ∈ ['@', '\x7b', '\x7d'], c ≠ special := by
    rintro special member rfl
    exact List.any_eq_false.mp specials c member holds
  exact ⟨different _ (by decide), different _ (by decide), different _ (by decide)⟩

theorem isPlain_of_isWord (word : Character.isWord c = true) : IsPlain c :=
  isPlain_of_class word (by decide)

theorem IsStop.isPlain (stops : IsStop c) : IsPlain c := by
  rcases stops with blank | rfl | rfl
  · exact isPlain_of_class blank (by decide)
  · exact ⟨by decide, by decide⟩
  · exact ⟨by decide, by decide⟩

theorem IsStop.isWord (stops : IsStop c) : Character.isWord c = false := by
  rcases stops with blank | rfl | rfl
  · exact Character.isWord_of_isBlank blank
  · decide
  · decide

end Stop

/-! ## Character by character -/

section Written

variable {c : Char} {body rest : List Char}

theorem written_cons (plain : IsPlain c) (rest : List Char) :
    written (c :: rest) = c :: written rest := by
  have same : FormatString.writePiece (Piece.quoteName (.character c)) = [c] := by
    simp [Piece.quoteName, FormatString.writePiece, plain.noBrace]
  rw [written, pieces_cons plain.noAt, List.map_cons, FormatString.write, List.flatMap_cons, same]
  rfl

theorem written_append {word : List Char} (plain : ∀ c ∈ word, IsPlain c) (rest : List Char) :
    written (word ++ rest) = word ++ written rest := by
  induction word with
  | nil => rfl
  | cons c word induction =>
      rcases List.forall_mem_cons.mp plain with ⟨first, others⟩
      rw [List.cons_append, written_cons first, induction others, List.cons_append]

theorem exists_writePiece (c : Char) : FormatString.writePiece (.character c) =
    c :: (FormatString.writePiece (.character c)).tail := by
  rw [FormatString.writePiece]
  split <;> rfl

theorem exists_written_of_scan {scan : List Piece} (scanned : Scan (c :: rest) scan)
    (special : ¬IsPlain c) :
    ∃ d left, FormatString.write (scan.map Piece.quoteName) = d :: left ∧ ¬IsPlain d := by
  have at_special : ¬IsPlain '@' := fun plain => plain.noAt rfl
  have brace_special : ¬IsPlain '\x7b' := fun plain => plain.noBrace.1 rfl
  cases scanned with
  | escape _ => exact ⟨'@', _, rfl, at_special⟩
  | reference _ _ => exact ⟨'\x7b', _, rfl, brace_special⟩
  | lone _ _ _ => exact ⟨'@', _, rfl, at_special⟩
  | @other _ _ later _ _ =>
      refine ⟨c, (FormatString.writePiece (.character c)).tail ++
        FormatString.write (later.map Piece.quoteName), ?_, special⟩
      rw [← List.cons_append, ← exists_writePiece]
      rfl

/-- An at sign or a brace is written as one of them, alone or with more behind it. -/
theorem exists_written (special : ¬IsPlain c) (rest : List Char) :
    ∃ d left, written (c :: rest) = d :: left ∧ ¬IsPlain d :=
  exists_written_of_scan (scan_pieces (c :: rest)) special

theorem exists_of_written_eq_cons (same : written body = c :: rest) (plain : IsPlain c) :
    ∃ left, body = c :: left ∧ written left = rest := by
  cases body with
  | nil => cases same
  | cons d left =>
      by_cases kept : IsPlain d
      · rw [written_cons kept] at same
        rcases List.cons.inj same with ⟨rfl, equal⟩
        exact ⟨left, rfl, equal⟩
      · rcases exists_written kept left with ⟨first, later, equal, special⟩
        rw [same] at equal
        exact absurd ((List.cons.inj equal).1 ▸ plain) special

theorem exists_of_written_eq_append {word : List Char} (plain : ∀ c ∈ word, IsPlain c)
    (same : written body = word ++ rest) : ∃ left, body = word ++ left ∧ written left = rest := by
  induction word generalizing body with
  | nil => exact ⟨body, rfl, same⟩
  | cons c word induction =>
      rcases List.forall_mem_cons.mp plain with ⟨first, others⟩
      rcases exists_of_written_eq_cons same first with ⟨left, rfl, equal⟩
      rcases induction others equal with ⟨behind, rfl, found⟩
      exact ⟨behind, rfl, found⟩

theorem written_eq_nil_iff : written body = [] ↔ body = [] := by
  constructor
  · intro empty
    cases body with
    | nil => rfl
    | cons c rest =>
        by_cases plain : IsPlain c
        · rw [written_cons plain] at empty
          cases empty
        · rcases exists_written plain rest with ⟨_, _, equal, _⟩
          rw [empty] at equal
          cases equal
  · rintro rfl
    rfl

/-- A class without at sign and braces holds the first character of both texts or of none. -/
theorem head?_written_any {inClass : Char → Bool}
    (specials : ['@', '\x7b', '\x7d'].any inClass = false) (body : List Char) :
    (written body).head?.any inClass = body.head?.any inClass := by
  cases body with
  | nil => rfl
  | cons c rest =>
      by_cases plain : IsPlain c
      · rw [written_cons plain]
        rfl
      · have outside : ∀ {d}, ¬IsPlain d → inClass d = false := by
          intro d special
          cases holds : inClass d with
          | false => rfl
          | true => exact absurd (isPlain_of_class holds specials) special
        rcases exists_written plain rest with ⟨d, left, equal, special⟩
        rw [equal]
        exact (outside special).trans (outside plain).symm

/-! ## Cut at a stop -/

theorem written_append_stop (stops : IsStop c) (front rest : List Char) :
    written (front ++ c :: rest) = written front ++ c :: written rest := by
  have tail : FormatString.write ((.character c :: pieces rest).map Piece.quoteName) =
      c :: written rest := by
    rw [← pieces_cons stops.isPlain.noAt]
    exact written_cons stops.isPlain rest
  rw [written, pieces_append_break stops.isBreak, List.map_append, FormatString.write,
    List.flatMap_append]
  exact congrArg (written front ++ ·) tail

theorem mem_of_mem_scan {scan : List Piece} (scanned : Scan body scan)
    (member : .character c ∈ scan) : c ∈ body := by
  induction scanned with
  | nil => cases member
  | escape _ induction =>
      rcases List.mem_cons.mp member with equal | behind
      · cases equal
        exact List.mem_cons_self
      · exact List.mem_cons_of_mem _ (List.mem_cons_of_mem _ (induction behind))
  | reference _ _ induction =>
      rcases List.mem_cons.mp member with equal | behind
      · cases equal
      · exact List.mem_cons_of_mem _
          (List.mem_append_right _ (List.mem_cons_of_mem _ (induction behind)))
  | lone _ _ _ induction | other _ _ induction =>
      rcases List.mem_cons.mp member with equal | behind
      · cases equal
        exact List.mem_cons_self
      · exact List.mem_cons_of_mem _ (induction behind)

/-- Substitution makes no blank and no bracket of a tag. -/
theorem mem_of_mem_written (stops : IsStop c) (member : c ∈ written body) : c ∈ body := by
  rcases List.mem_flatMap.mp member with ⟨quoted, listed, inPiece⟩
  rcases List.mem_map.mp listed with ⟨piece, found, rfl⟩
  cases piece with
  | character d =>
      have same : c = d := by
        change c ∈ FormatString.writePiece (.character d) at inPiece
        rw [FormatString.writePiece] at inPiece
        split at inPiece <;> simpa using inPiece
      subst same
      exact mem_of_mem_scan (scan_pieces body) found
  | field name =>
      have inName : c ∈ Identifier.quote name := by
        simpa [Piece.quoteName, FormatString.writePiece, stops.isPlain.noBrace] using inPiece
      have word := (Identifier.quote_isFit name).words c inName
      rw [stops.isWord] at word
      cases word

/-- A stop in the format string stands where one stands in the body. -/
theorem exists_of_written_eq_append_stop (stops : IsStop c) {body front rest : List Char}
    (same : written body = front ++ c :: rest) :
    ∃ before after, body = before ++ c :: after ∧ written before = front ∧
      written after = rest := by
  have inBody : c ∈ body := mem_of_mem_written stops (by simp [same])
  rcases List.eq_append_cons_of_mem inBody with ⟨before, after, rfl, notBefore⟩
  have notWritten : c ∉ written before := fun member => notBefore (mem_of_mem_written stops member)
  rw [written_append_stop stops] at same
  rcases List.append_eq_append_iff.mp same with ⟨middle, reached, left⟩ | ⟨middle, reached, left⟩
  · cases middle with
    | nil =>
        rw [List.append_nil] at reached
        exact ⟨before, after, rfl, reached.symm, (List.cons.inj left).2⟩
    | cons d middle =>
        rw [List.cons_append, List.cons.injEq] at left
        rcases left with ⟨rfl, further⟩
        have shorter : middle.length < front.length := by
          rw [reached, List.length_append, List.length_cons]
          omega
        rcases exists_of_written_eq_append_stop stops further with ⟨between, last, rfl, found, ends⟩
        refine ⟨before ++ c :: between, last, by simp, ?_, ends⟩
        rw [written_append_stop stops, found, reached]
  · cases middle with
    | nil =>
        rw [List.append_nil] at reached
        exact ⟨before, after, rfl, reached, (List.cons.inj left).2.symm⟩
    | cons d middle =>
        rw [List.cons_append, List.cons.injEq] at left
        rw [reached, ← left.1] at notWritten
        exact absurd (List.mem_append_right front List.mem_cons_self) notWritten
termination_by front.length

end Written

end Stencil.Placeholder
