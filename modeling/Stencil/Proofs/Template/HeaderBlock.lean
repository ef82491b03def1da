import Mathlib.Data.List.TakeWhile
import Stencil.Template.Strip

/-!
What the removal of the header block takes out of a document, by positions: all from the first
opening brace to the last closing brace that a line feed follows. What is left has no block of its
own, so a second removal finds nothing.
-/

namespace Stencil

variable {text rest : List Char} {c : Char} {position first last : Nat}

/-! ## Positions -/

/-- A closing brace stands at the position, and a line feed follows it. -/
def ClosesAt (text : List Char) (position : Nat) : Prop :=
  text[position]? = some '\x7d' ∧ text[position + 1]? = some '\n'

instance : Decidable (ClosesAt text position) := inferInstanceAs (Decidable (_ ∧ _))

structure IsFirstOpen (text : List Char) (position : Nat) : Prop where
  opens : text[position]? = some '\x7b'
  first : ∀ earlier, earlier < position → text[earlier]? ≠ some '\x7b'

structure IsLastClose (text : List Char) (position : Nat) : Prop where
  closes : ClosesAt text position
  last : ∀ other, ClosesAt text other → other ≤ position

theorem closesAt_cons_succ : ClosesAt (c :: rest) (position + 1) ↔ ClosesAt rest position :=
  Iff.rfl

theorem closesAt_drop {count : Nat} :
    ClosesAt (text.drop count) position ↔ ClosesAt text (count + position) := by
  rw [ClosesAt, ClosesAt, List.getElem?_drop, List.getElem?_drop, Nat.add_assoc]

theorem isFirstOpen_cons_succ :
    IsFirstOpen (c :: rest) (position + 1) ↔ c ≠ '\x7b' ∧ IsFirstOpen rest position := by
  constructor
  · intro opens
    refine ⟨fun equal => opens.first 0 (Nat.succ_pos position) (by rw [equal]; rfl), opens.opens, ?_⟩
    intro earlier before
    exact opens.first (earlier + 1) (Nat.succ_lt_succ before)
  · intro opens
    refine ⟨opens.2.opens, fun earlier before => ?_⟩
    cases earlier with
    | zero => simpa using opens.1
    | succ earlier => exact opens.2.first earlier (Nat.lt_of_succ_lt_succ before)

theorem exists_isFirstOpen (present : '\x7b' ∈ text) : ∃ position, IsFirstOpen text position := by
  induction text with
  | nil => cases present
  | cons c rest induction =>
      by_cases equal : c = '\x7b'
      · exact ⟨0, by rw [equal]; rfl, fun earlier before => absurd before (Nat.not_lt_zero earlier)⟩
      · have later : '\x7b' ∈ rest := (List.mem_cons.mp present).resolve_left (Ne.symm equal)
        cases induction later with
        | intro position opens => exact ⟨position + 1, isFirstOpen_cons_succ.mpr ⟨equal, opens⟩⟩

theorem IsLastClose.cons (closes : IsLastClose rest position) (c : Char) :
    IsLastClose (c :: rest) (position + 1) := by
  refine ⟨closes.closes, fun other closesToo => ?_⟩
  cases other with
  | zero => exact Nat.zero_le _
  | succ other => exact Nat.succ_le_succ (closes.last other closesToo)

/-- The last close of what is behind a position is the last close of the text. -/
theorem isLastClose_drop {count : Nat} :
    IsLastClose (text.drop count) position ↔ IsLastClose text (count + position) := by
  constructor
  · intro closes
    refine ⟨closesAt_drop.mp closes.closes, fun other closesToo => ?_⟩
    by_cases before : other < count
    · omega
    · have behind : ClosesAt (text.drop count) (other - count) := by
        rwa [closesAt_drop, Nat.add_sub_cancel' (Nat.le_of_not_lt before)]
      have bound := closes.last _ behind
      omega
  · intro closes
    refine ⟨closesAt_drop.mpr closes.closes, fun other closesToo => ?_⟩
    have bound := closes.last _ (closesAt_drop.mp closesToo)
    omega

/-! ## The block -/

theorem IsFirstOpen.takeWhile (opens : IsFirstOpen text first) :
    text.takeWhile (· != '\x7b') = text.take first := by
  induction text generalizing first with
  | nil => cases opens.opens
  | cons c rest induction =>
      cases first with
      | zero =>
          have equal : c = '\x7b' := by simpa using opens.opens
          simp [equal]
      | succ first =>
          have later := isFirstOpen_cons_succ.mp opens
          rw [List.takeWhile_cons_of_pos (by simpa using later.1), induction later.2,
            List.take_succ_cons]

theorem IsFirstOpen.dropWhile (opens : IsFirstOpen text first) :
    text.dropWhile (· != '\x7b') = '\x7b' :: text.drop (first + 1) := by
  induction text generalizing first with
  | nil => cases opens.opens
  | cons c rest induction =>
      cases first with
      | zero =>
          have equal : c = '\x7b' := by simpa using opens.opens
          simp [equal]
      | succ first =>
          have later := isFirstOpen_cons_succ.mp opens
          rw [List.dropWhile_cons_of_pos (by simpa using later.1), induction later.2,
            List.drop_succ_cons]

/-- The search from the back finds the last close, if there is one. -/
theorem afterLastClose?_spec (text : List Char) :
    (afterLastClose? text = none ∧ ∀ position, ¬ClosesAt text position) ∨
      ∃ position, IsLastClose text position ∧
        afterLastClose? text = some (text.drop (position + 2)) := by
  induction text with
  | nil => exact .inl ⟨rfl, fun position closes => by cases closes.1⟩
  | cons c rest induction =>
      cases induction with
      | inr found =>
          rcases found with ⟨position, closes, same⟩
          refine .inr ⟨position + 1, closes.cons c, ?_⟩
          rw [afterLastClose?.eq_def]
          simp only [same]
          rfl
      | inl missing =>
          have later (other : Nat) : ¬ClosesAt (c :: rest) (other + 1) := missing.2 other
          by_cases here : ClosesAt (c :: rest) 0
          · -- No close is behind this one, so it is the last.
            refine .inr ⟨0, ⟨here, fun other closes => ?_⟩, ?_⟩
            · cases other with
              | zero => exact Nat.le_refl 0
              | succ other => exact absurd closes (later other)
            · cases rest with
              | nil => cases here.2
              | cons d rest =>
                  have brace : c = '\x7d' := by simpa using here.1
                  have feed : d = '\n' := by simpa using here.2
                  subst brace feed
                  rw [afterLastClose?.eq_def]
                  simp only [missing.1]
                  rfl
          · left
            constructor
            · rw [afterLastClose?.eq_def]
              simp only [missing.1]
              split
              · rename_i found
                cases found
              · exact absurd ⟨rfl, rfl⟩ here
              · rfl
            · intro position closes
              cases position with
              | zero => exact here closes
              | succ position => exact later position closes

theorem stripHeaderBlock_of_isFirstOpen (opens : IsFirstOpen text first) :
    stripHeaderBlock text =
      ((afterLastClose? (text.drop (first + 1))).map (text.take first ++ ·)).getD text := by
  rw [stripHeaderBlock, opens.dropWhile, opens.takeWhile]
  cases found : afterLastClose? (text.drop (first + 1)) <;> simp [found]

/-- The document without its header block, which stands from `first` to the line feed behind
`last`. -/
def withoutBlock (text : List Char) (first last : Nat) : List Char :=
  text.take first ++ text.drop (last + 2)

theorem stripHeaderBlock_of_lt (opens : IsFirstOpen text first) (closes : IsLastClose text last)
    (before : first < last) : stripHeaderBlock text = withoutBlock text first last := by
  have inside : IsLastClose (text.drop (first + 1)) (last - (first + 1)) := by
    rwa [isLastClose_drop, Nat.add_sub_cancel' before]
  rw [stripHeaderBlock_of_isFirstOpen opens]
  rcases afterLastClose?_spec (text.drop (first + 1)) with ⟨_, unclosed⟩ | ⟨position, found, same⟩
  · exact absurd inside.closes (unclosed _)
  · have equal : position = last - (first + 1) :=
      Nat.le_antisymm (inside.last _ found.closes) (found.last _ inside.closes)
    have behind : first + 1 + (position + 2) = last + 2 := by omega
    rw [same, List.drop_drop, behind]
    rfl

/-- No last close is behind the first opening brace. -/
def HasNoBlock (text : List Char) : Prop :=
  ∀ first last, IsFirstOpen text first → IsLastClose text last → ¬first < last

theorem stripHeaderBlock_of_hasNoBlock (noBlock : HasNoBlock text) :
    stripHeaderBlock text = text := by
  by_cases present : '\x7b' ∈ text
  · rcases exists_isFirstOpen present with ⟨first, opens⟩
    rw [stripHeaderBlock_of_isFirstOpen opens]
    rcases afterLastClose?_spec (text.drop (first + 1)) with ⟨missing, _⟩ | ⟨position, found, _⟩
    · rw [missing]
      rfl
    · exact absurd (by omega) (noBlock _ _ opens (isLastClose_drop.mp found))
  · have none : text.dropWhile (· != '\x7b') = [] := by
      rw [List.dropWhile_eq_nil_iff]
      intro c member
      have different : c ≠ '\x7b' := fun equal => present (equal ▸ member)
      simpa using different
    rw [stripHeaderBlock, none]

/-- A closing brace before the block may come to stand before a line feed behind it, but then no
brace opens before it. -/
theorem hasNoBlock_withoutBlock (opens : IsFirstOpen text first) (closes : IsLastClose text last) :
    HasNoBlock (withoutBlock text first last) := by
  intro newFirst newLast opensAgain closesAgain before
  have fits : first < text.length := (List.getElem?_eq_some_iff.mp opens.opens).1
  have length : (text.take first).length = first := by
    rw [List.length_take]
    omega
  have front (index : Nat) (isFront : index < first) :
      (withoutBlock text first last)[index]? = text[index]? := by
    rw [withoutBlock, List.getElem?_append_left (by omega), List.getElem?_take_of_lt isFront]
  have back (index : Nat) (isBack : first ≤ index) :
      (withoutBlock text first last)[index]? = text[last + 2 + (index - first)]? := by
    rw [withoutBlock, List.getElem?_append_right (by omega), length, List.getElem?_drop]
  have opensBehind : first ≤ newFirst := by
    by_contra inFront
    have isFront : newFirst < first := Nat.lt_of_not_le inFront
    exact opens.first newFirst isFront ((front newFirst isFront).symm.trans opensAgain.opens)
  have closesBehind : ClosesAt text (last + 2 + (newLast - first)) := by
    have brace := closesAgain.closes.1
    have feed := closesAgain.closes.2
    rw [back newLast (by omega)] at brace
    rw [back (newLast + 1) (by omega)] at feed
    refine ⟨brace, ?_⟩
    rwa [Nat.sub_add_comm (by omega), ← Nat.add_assoc] at feed
  have bound := closes.last _ closesBehind
  omega

theorem hasNoBlock_stripHeaderBlock (text : List Char) : HasNoBlock (stripHeaderBlock text) := by
  by_cases noBlock : HasNoBlock text
  · rwa [stripHeaderBlock_of_hasNoBlock noBlock]
  · simp only [HasNoBlock, not_forall, not_not] at noBlock
    rcases noBlock with ⟨first, last, opens, closes, before⟩
    rw [stripHeaderBlock_of_lt opens closes before]
    exact hasNoBlock_withoutBlock opens closes

/-! ## Documents -/

/-- The removal takes out the characters from the first opening brace to the line feed behind the
last closing brace that has one, and nothing where there is no such stretch. A second removal
changes nothing more. -/
theorem stripHeader_exact (document : String) :
    (∀ first last, IsFirstOpen document.toList first → IsLastClose document.toList last →
      first < last →
        (stripHeader document).toList =
          document.toList.take first ++ document.toList.drop (last + 2)) ∧
    ((∀ first last, IsFirstOpen document.toList first → IsLastClose document.toList last →
      ¬first < last) → stripHeader document = document) ∧
    stripHeader (stripHeader document) = stripHeader document := by
  refine ⟨fun first last opens closes before => ?_, fun noBlock => ?_, ?_⟩
  · rw [stripHeader, String.toList_ofList]
    exact stripHeaderBlock_of_lt opens closes before
  · rw [stripHeader, stripHeaderBlock_of_hasNoBlock noBlock, String.ofList_toList]
  · have again := stripHeaderBlock_of_hasNoBlock (hasNoBlock_stripHeaderBlock document.toList)
    rw [stripHeader, stripHeader, String.toList_ofList, again]

/-- The removal brings the brace in front of the block before the line feed behind it, which makes
no block with the brace that opens later. -/
def seamDocument : String := "a\x7d\x7bb\x7d\n\n\x7bc"

theorem stripHeader_seam :
    IsFirstOpen seamDocument.toList 2 ∧ IsLastClose seamDocument.toList 4 ∧
      stripHeader seamDocument = "a\x7d\n\x7bc" ∧
      stripHeader "a\x7d\n\x7bc" = "a\x7d\n\x7bc" := by
  have opens : IsFirstOpen seamDocument.toList 2 := ⟨by decide, by decide⟩
  have closes : IsLastClose seamDocument.toList 4 := by
    refine ⟨by decide, fun other closesToo => ?_⟩
    have listed : ∀ other < 9, ClosesAt seamDocument.toList other → other ≤ 4 := by decide
    exact listed other (List.getElem?_eq_some_iff.mp closesToo.1).1 closesToo
  have holds := stripHeader_exact seamDocument
  have left : stripHeader seamDocument = "a\x7d\n\x7bc" := by
    apply String.toList_injective
    rw [holds.1 2 4 opens closes (by decide)]
    decide
  have again := holds.2.2
  rw [left] at again
  exact ⟨opens, closes, left, again⟩

end Stencil
