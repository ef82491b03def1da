import Mathlib.Data.List.Forall2
import Stencil.Proofs.Text.Ascii
import Stencil.Proofs.Text.Blank
import Stencil.Template.Minify

/-!
Raw elements: what one is, told by its parts alone, and that the scan finds one wherever it stands.
An element does not depend on the text around it, since its closing tag ends at the first bracket
that can end it.
-/

namespace Stencil.Minify

/-! ## Letters of a tag -/

theorem isWord_fold (c : Char) : Character.isWord (fold c) = Character.isWord c := by
  by_cases ascii : Character.IsAscii c
  · exact Character.IsAscii.of_codes
      (fun c => Character.isWord (fold c) = Character.isWord c) (by decide +kernel) ascii
  · by_cases dotted : c = 'İ'
    · subst dotted
      decide +kernel
    · have same : c.toLower = c := by
        have beyond : ¬c.val ≤ 'Z'.val := fun low =>
          ascii (Nat.lt_of_le_of_lt (UInt32.le_iff_toNat_le.mp low) (by decide))
        exact dif_neg fun between => beyond between.2
      simp [fold, dotted, same]

theorem isWord_of_opensAs {tag : List Char} (member : tag ∈ rawTags) {letter c : Char}
    (inTag : letter ∈ tag) (opens : opensAs letter c = true) : Character.isWord c = true := by
  have tags : rawTags.all (·.all Character.isWord) = true := by decide +kernel
  have letters := List.all_eq_true.mp tags tag member
  simp only [opensAs, Bool.or_eq_true, Bool.and_eq_true, beq_iff_eq] at opens
  rcases opens with (same | ⟨_, rfl⟩) | ⟨_, rfl⟩
  · rw [← isWord_fold, same]
    exact List.all_eq_true.mp letters letter inTag
  · decide +kernel
  · decide +kernel

theorem forall₂_words {related : Char → Char → Prop} {tag written : List Char}
    (letters : List.Forall₂ related tag written)
    (words : ∀ letter ∈ tag, ∀ c, related letter c → Character.isWord c = true) :
    ∀ c ∈ written, Character.isWord c = true := by
  induction letters with
  | nil => exact fun _ member => nomatch member
  | cons first _ induction =>
      rcases List.forall_mem_cons.mp words with ⟨firstWord, otherWords⟩
      exact List.forall_mem_cons.mpr ⟨firstWord _ first, induction otherWords⟩

/-! ## The parts of an element -/

/-- The tag of a raw element as it may be written, in any case. Case is ignored as a pattern that
ignores it does, for which a long s and a dotless i are letters of a tag too. -/
def IsRawTag (written : List Char) : Prop :=
  ∃ tag ∈ rawTags, List.Forall₂ (fun letter c => opensAs letter c = true) tag written

/-- The closing tag of an element that was opened by `tag`. It repeats that tag, compared by the
small forms of the letters, and blanks may stand before its last bracket. -/
def IsClosing (tag closing : List Char) : Prop :=
  ∃ again blanks, List.Forall₂ (fun letter c => fold letter = fold c) tag again ∧
    (∀ c ∈ blanks, Character.isBlank c = true) ∧
    closing = '<' :: '/' :: (again ++ (blanks ++ ['>']))

/-- Whether a text begins with a closing tag. -/
def BeginsClosing (tag text : List Char) : Prop :=
  ∃ closing, IsClosing tag closing ∧ closing <+: text

/-- `closing` is the first closing tag of all that begin in `inner ++ closing`. -/
structure Encloses (tag inner closing : List Char) : Prop where
  isClosing : IsClosing tag closing
  first : ∀ earlier later, inner = earlier ++ later → later ≠ [] →
    ¬BeginsClosing tag (later ++ closing)

/-- What makes a raw element of a tag, the text inside and a closing tag. -/
structure IsElementOf (tag inner closing : List Char) : Prop extends
    Encloses tag inner closing where
  isTag : IsRawTag tag
  boundary : (inner ++ closing).head?.any Character.isWord = false

def IsElement (element : List Char) : Prop :=
  ∃ tag inner closing, IsElementOf tag inner closing ∧
    element = '<' :: (tag ++ (inner ++ closing))

theorem IsRawTag.words {tag : List Char} (isTag : IsRawTag tag) :
    ∀ c ∈ tag, Character.isWord c = true := by
  rcases isTag with ⟨name, member, letters⟩
  exact forall₂_words letters fun letter inName c opens =>
    isWord_of_opensAs member inName opens

section Closing

variable {tag closing : List Char}

theorem isWord_of_fold_eq {letter c : Char} (word : Character.isWord letter = true)
    (same : fold letter = fold c) : Character.isWord c = true := by
  rw [← isWord_fold, ← same, isWord_fold]
  exact word

/-- The only bracket that ends anything in a closing tag is its last character. -/
theorem IsClosing.eq_append (words : ∀ c ∈ tag, Character.isWord c = true)
    (isClosing : IsClosing tag closing) : ∃ front, closing = front ++ ['>'] ∧ '>' ∉ front := by
  rcases isClosing with ⟨again, blanks, letters, allBlank, rfl⟩
  have againWords := forall₂_words letters fun letter inTag c same =>
    isWord_of_fold_eq (words letter inTag) same
  refine ⟨'<' :: '/' :: (again ++ blanks), by simp, ?_⟩
  simp only [List.mem_cons, List.mem_append, not_or]
  refine ⟨by decide, by decide, fun member => ?_, fun member => ?_⟩
  · exact absurd (againWords _ member) (by decide)
  · exact absurd (allBlank _ member) (by decide)

theorem IsClosing.head? (isClosing : IsClosing tag closing) : closing.head? = some '<' := by
  rcases isClosing with ⟨_, _, _, _, rfl⟩
  rfl

theorem IsClosing.prefix_of_mem (words : ∀ c ∈ tag, Character.isWord c = true)
    (isClosing : IsClosing tag closing) {first second : List Char}
    (begins : closing <+: first ++ second) (bracket : '>' ∈ first) : closing <+: first := by
  rcases isClosing.eq_append words with ⟨front, rfl, noBracket⟩
  rcases List.prefix_or_prefix_of_prefix begins (List.prefix_append first second) with
    inside | beyond
  · exact inside
  · rcases List.prefix_concat_iff.mp beyond with equal | within
    · exact equal ▸ List.prefix_refl _
    · exact absurd (within.subset bracket) noBracket

theorem IsClosing.mem_bracket (words : ∀ c ∈ tag, Character.isWord c = true)
    (isClosing : IsClosing tag closing) : '>' ∈ closing := by
  rcases isClosing.eq_append words with ⟨front, rfl, _⟩
  simp

end Closing

theorem IsElement.exists_cons {element : List Char} (isElement : IsElement element) :
    ∃ rest, element = '<' :: rest := by
  rcases isElement with ⟨_, _, _, _, rfl⟩
  exact ⟨_, rfl⟩

theorem IsElement.getLast? {element : List Char} (isElement : IsElement element) :
    element.getLast? = some '>' := by
  rcases isElement with ⟨tag, inner, closing, parts, rfl⟩
  rcases parts.isClosing.eq_append parts.isTag.words with ⟨front, rfl, _⟩
  rw [← List.append_assoc, ← List.append_assoc, ← List.cons_append, List.getLast?_concat]

/-! ## Finding an element -/

theorem beginsWith_iff {same : Char → Char → Bool} {tag text : List Char} :
    beginsWith same tag text = true ↔
      ∃ written rest, List.Forall₂ (fun letter c => same letter c = true) tag written ∧
        text = written ++ rest := by
  induction tag generalizing text with
  | nil => simp [beginsWith]
  | cons letter tag induction =>
      cases text with
      | nil => simp [beginsWith]
      | cons c text =>
          simp only [beginsWith, Bool.and_eq_true, induction]
          constructor
          · rintro ⟨first, written, rest, letters, rfl⟩
            exact ⟨c :: written, rest, .cons first letters, rfl⟩
          · rintro ⟨written, rest, letters, equal⟩
            cases letters with
            | cons first letters =>
                cases equal
                exact ⟨first, _, rest, letters, rfl⟩

/-- Whether a raw element whose tag has the name `tag` is opened before `rest`. -/
def opensWith (rest tag : List Char) : Bool :=
  beginsWith opensAs tag rest && !((rest.drop tag.length).head?.any Character.isWord)

theorem opensWith_iff {rest tag : List Char} :
    opensWith rest tag = true ↔ ∃ written later,
      List.Forall₂ (fun letter c => opensAs letter c = true) tag written ∧
        rest = written ++ later ∧ later.head?.any Character.isWord = false := by
  rw [opensWith, Bool.and_eq_true, beginsWith_iff, Bool.not_eq_true']
  constructor
  · rintro ⟨⟨written, later, letters, rfl⟩, boundary⟩
    rw [List.drop_left' letters.length_eq.symm] at boundary
    exact ⟨written, later, letters, rfl, boundary⟩
  · rintro ⟨written, later, letters, rfl, boundary⟩
    rw [List.drop_left' letters.length_eq.symm]
    exact ⟨⟨written, later, letters, rfl⟩, boundary⟩

/-- The tag is the whole word run at the head of the text, so it does not matter which of the names
is tried first. -/
theorem openedTag?_eq_some_iff {rest written : List Char} :
    openedTag? rest = some written ↔
      IsRawTag written ∧ ∃ later, rest = written ++ later ∧
        later.head?.any Character.isWord = false := by
  have opened : openedTag? rest = (rawTags.find? (opensWith rest)).map fun tag =>
    rest.take tag.length := rfl
  rw [opened, Option.map_eq_some_iff]
  constructor
  · rintro ⟨tag, first, rfl⟩
    rcases opensWith_iff.mp (List.find?_some first) with ⟨word, later, letters, rfl, boundary⟩
    rw [List.take_left' letters.length_eq.symm]
    exact ⟨⟨tag, List.mem_of_find?_eq_some first, letters⟩, later, rfl, boundary⟩
  · rintro ⟨isTag, later, rfl, boundary⟩
    have run := takeWhile_run isTag.words boundary
    rcases isTag with ⟨tag, member, letters⟩
    have isSome := List.find?_isSome.mpr
      ⟨tag, member, opensWith_iff.mpr ⟨written, later, letters, rfl, boundary⟩⟩
    rcases Option.isSome_iff_exists.mp isSome with ⟨other, first⟩
    rcases opensWith_iff.mp (List.find?_some first) with
      ⟨word, behind, otherLetters, equal, otherBoundary⟩
    have otherTag : IsRawTag word := ⟨other, List.mem_of_find?_eq_some first, otherLetters⟩
    have otherRun := takeWhile_run otherTag.words otherBoundary
    rw [← equal, run] at otherRun
    refine ⟨other, first, ?_⟩
    rw [otherRun, otherLetters.length_eq, List.take_left]

theorem closingLength?_eq_some_iff {tag text : List Char} {length : Nat} :
    closingLength? tag text = some length ↔
      ∃ closing, IsClosing tag closing ∧ closing <+: text ∧ length = closing.length := by
  constructor
  · intro found
    unfold closingLength? at found
    split at found
    · rename_i rest
      rcases Option.ite_none_right_eq_some.mp found with ⟨begins, found⟩
      rcases beginsWith_iff.mp begins with ⟨again, afterTag, letters, rfl⟩
      rw [List.drop_left' letters.length_eq.symm] at found
      rcases Option.ite_none_right_eq_some.mp found with ⟨bracket, counted⟩
      rw [beq_iff_eq, List.head?_eq_some_iff] at bracket
      rcases bracket with ⟨behind, left⟩
      refine ⟨_, ⟨again, afterTag.takeWhile Character.isBlank,
        letters.imp fun _ _ same => eq_of_beq same, ?_, rfl⟩, ⟨behind, ?_⟩, ?_⟩
      · exact fun c member => List.all_eq_true.mp List.all_takeWhile c member
      · have whole : afterTag.takeWhile Character.isBlank ++ '>' :: behind = afterTag := by
          rw [← left]
          exact List.prefix_iff_eq_append.mp (List.takeWhile_prefix _)
        simp [whole]
      · rw [← Option.some.inj counted, letters.length_eq]
        simp only [List.length_cons, List.length_append, List.length_nil]
        omega
    · cases found
  · rintro ⟨_, ⟨again, blanks, letters, allBlank, rfl⟩, ⟨behind, rfl⟩, rfl⟩
    have begins : beginsWith (fun letter c => fold letter == fold c) tag
        (again ++ (blanks ++ '>' :: behind)) = true :=
      beginsWith_iff.mpr ⟨again, _, letters.imp fun _ _ same => beq_iff_eq.mpr same, rfl⟩
    have run : (blanks ++ '>' :: behind).takeWhile Character.isBlank = blanks := by
      have noBlank : Character.isBlank '>' = false := by decide
      simp [List.takeWhile_append_of_pos allBlank, noBlank]
    simp [closingLength?, begins, List.drop_left' letters.length_eq.symm, run]
    have same := letters.length_eq
    omega

theorem IsClosing.ne_nil {tag closing : List Char} (isClosing : IsClosing tag closing) :
    closing ≠ [] := by
  intro empty
  have head := isClosing.head?
  rw [empty] at head
  cases head

theorem Encloses.nil {tag closing : List Char} (isClosing : IsClosing tag closing) :
    Encloses tag [] closing := by
  refine ⟨isClosing, fun earlier later equal nonempty => ?_⟩
  exact absurd (List.append_eq_nil_iff.mp equal.symm).2 nonempty

theorem encloses_cons_iff {tag inner closing : List Char} {c : Char} :
    Encloses tag (c :: inner) closing ↔
      ¬BeginsClosing tag (c :: (inner ++ closing)) ∧ Encloses tag inner closing := by
  constructor
  · intro encloses
    refine ⟨encloses.first [] (c :: inner) rfl (List.cons_ne_nil c inner), encloses.isClosing, ?_⟩
    intro earlier later equal
    exact encloses.first (c :: earlier) later (equal ▸ rfl)
  · rintro ⟨noneHere, encloses⟩
    refine ⟨encloses.isClosing, fun earlier later equal nonempty => ?_⟩
    cases earlier with
    | nil =>
        rw [List.nil_append] at equal
        exact equal ▸ noneHere
    | cons d earlier =>
        cases equal
        exact encloses.first earlier later rfl nonempty

/-- Nothing stands in front of a closing tag that is the first one of a text which begins with one. -/
theorem Encloses.inner_eq_nil {tag inner other closing text : List Char}
    (words : ∀ c ∈ tag, Character.isWord c = true) (encloses : Encloses tag inner other)
    (within : inner ++ other <+: text) (isClosing : IsClosing tag closing)
    (begins : closing <+: text) : inner = [] := by
  cases inner with
  | nil => rfl
  | cons c inner =>
      rcases within with ⟨behind, rfl⟩
      have bracket : '>' ∈ c :: inner ++ other :=
        List.mem_append_right _ (encloses.isClosing.mem_bracket words)
      have inside := isClosing.prefix_of_mem words begins bracket
      exact absurd ⟨closing, isClosing, inside⟩ (encloses_cons_iff.mp encloses).1

/-- The search ends at the first closing tag. -/
theorem lengthToClosing?_eq_some_iff {tag text : List Char}
    (words : ∀ c ∈ tag, Character.isWord c = true) {length : Nat} :
    lengthToClosing? tag text = some length ↔
      ∃ inner closing, Encloses tag inner closing ∧ inner ++ closing <+: text ∧
        length = (inner ++ closing).length := by
  induction text generalizing length with
  | nil =>
      simp only [lengthToClosing?, List.prefix_nil, List.append_eq_nil_iff]
      constructor
      · intro none
        cases none
      · rintro ⟨_, _, encloses, ⟨_, empty⟩, _⟩
        exact absurd empty encloses.isClosing.ne_nil
  | cons c rest induction =>
      rw [lengthToClosing?]
      cases here : closingLength? tag (c :: rest) with
      | some found =>
          rcases closingLength?_eq_some_iff.mp here with ⟨closing, isClosing, begins, rfl⟩
          constructor
          · intro equal
            cases equal
            exact ⟨[], closing, .nil isClosing, begins, rfl⟩
          · rintro ⟨inner, other, encloses, within, rfl⟩
            obtain rfl := encloses.inner_eq_nil words within isClosing begins
            have same := closingLength?_eq_some_iff.mpr ⟨other, encloses.isClosing, within, rfl⟩
            rw [here] at same
            exact same
      | none =>
          have noneHere : ¬BeginsClosing tag (c :: rest) := by
            rintro ⟨closing, isClosing, begins⟩
            rw [closingLength?_eq_some_iff.mpr ⟨closing, isClosing, begins, rfl⟩] at here
            cases here
          simp only [Option.map_eq_some_iff, induction]
          constructor
          · rintro ⟨_, ⟨inner, closing, encloses, within, rfl⟩, rfl⟩
            have whole : c :: (inner ++ closing) <+: c :: rest :=
              List.cons_prefix_cons.mpr ⟨rfl, within⟩
            refine ⟨c :: inner, closing, encloses_cons_iff.mpr ⟨?_, encloses⟩, whole, rfl⟩
            rintro ⟨other, isClosing, begins⟩
            exact noneHere ⟨other, isClosing, begins.trans whole⟩
          · rintro ⟨inner, closing, encloses, within, rfl⟩
            cases inner with
            | nil => exact absurd ⟨closing, encloses.isClosing, within⟩ noneHere
            | cons d inner =>
                rcases List.cons_prefix_cons.mp within with ⟨rfl, inside⟩
                exact ⟨_, ⟨inner, closing, (encloses_cons_iff.mp encloses).2, inside, rfl⟩, rfl⟩

/-- Wherever a closing tag stands in a text, there is a first one. -/
theorem exists_encloses {tag closing text : List Char} (isClosing : IsClosing tag closing)
    (inside : closing <:+: text) : ∃ inner first, Encloses tag inner first ∧
      inner ++ first <+: text := by
  induction text with
  | nil => exact absurd (List.infix_nil.mp inside) isClosing.ne_nil
  | cons c rest induction =>
      by_cases here : BeginsClosing tag (c :: rest)
      · rcases here with ⟨other, isClosing, begins⟩
        exact ⟨[], other, .nil isClosing, begins⟩
      · rcases List.infix_cons_iff.mp inside with begins | further
        · exact absurd ⟨closing, isClosing, begins⟩ here
        · rcases induction further with ⟨inner, first, encloses, within⟩
          have whole : c :: (inner ++ first) <+: c :: rest :=
            List.cons_prefix_cons.mpr ⟨rfl, within⟩
          refine ⟨c :: inner, first, encloses_cons_iff.mpr ⟨?_, encloses⟩, whole⟩
          rintro ⟨other, isClosing, begins⟩
          exact here ⟨other, isClosing, begins.trans whole⟩

theorem Encloses.head?_append {tag inner closing : List Char}
    (encloses : Encloses tag inner closing) (behind : List Char) :
    (inner ++ closing ++ behind).head? = (inner ++ closing).head? := by
  apply List.head?_append_of_ne_nil
  exact List.append_ne_nil_of_right_ne_nil inner encloses.isClosing.ne_nil

/-- The scan takes a raw element off the head of a text if and only if there is one. -/
theorem rawLength?_eq_some_iff {text : List Char} {length : Nat} :
    rawLength? text = some length ↔
      ∃ element, IsElement element ∧ element <+: text ∧ length = element.length := by
  constructor
  · intro found
    unfold rawLength? at found
    split at found
    · rename_i rest
      rcases Option.bind_eq_some_iff.mp found with ⟨tag, opened, found⟩
      rcases openedTag?_eq_some_iff.mp opened with ⟨isTag, later, rfl, boundary⟩
      rw [List.drop_left, Option.map_eq_some_iff] at found
      rcases found with ⟨_, reached, rfl⟩
      rcases (lengthToClosing?_eq_some_iff isTag.words).mp reached with
        ⟨inner, closing, encloses, ⟨behind, rfl⟩, rfl⟩
      rw [encloses.head?_append] at boundary
      have parts : IsElementOf tag inner closing := ⟨encloses, isTag, boundary⟩
      refine ⟨_, ⟨tag, inner, closing, parts, rfl⟩, ⟨behind, by simp⟩, ?_⟩
      simp only [List.length_cons, List.length_append]
      omega
    · cases found
  · rintro ⟨_, ⟨tag, inner, closing, parts, rfl⟩, ⟨behind, rfl⟩, rfl⟩
    have opened : openedTag? (tag ++ (inner ++ closing ++ behind)) = some tag := by
      refine openedTag?_eq_some_iff.mpr ⟨parts.isTag, _, rfl, ?_⟩
      rw [parts.head?_append]
      exact parts.boundary
    have reached : lengthToClosing? tag (inner ++ closing ++ behind) =
        some (inner ++ closing).length :=
      (lengthToClosing?_eq_some_iff parts.isTag.words).mpr
        ⟨inner, closing, parts.toEncloses, List.prefix_append .., rfl⟩
    simp only [List.cons_append, List.append_assoc] at opened reached ⊢
    simp only [rawLength?, opened, Option.bind_some, List.drop_left, reached, Option.map_some,
      List.length_cons, List.length_append, Option.some.injEq]
    omega

theorem rawLength?_eq_none_iff {text : List Char} :
    rawLength? text = none ↔ ∀ element, IsElement element → ¬element <+: text := by
  constructor
  · intro nothing element isElement begins
    rw [rawLength?_eq_some_iff.mpr ⟨element, isElement, begins, rfl⟩] at nothing
    cases nothing
  · intro noElement
    cases found : rawLength? text with
    | none => rfl
    | some length =>
        rcases rawLength?_eq_some_iff.mp found with ⟨element, isElement, begins, _⟩
        exact absurd begins (noElement element isElement)

/-- A bracket opens a raw element if and only if a raw tag and a word boundary come after it, and a
closing tag somewhere behind. -/
theorem exists_element_iff {text : List Char} :
    (∃ element, IsElement element ∧ element <+: '<' :: text) ↔
      ∃ tag rest closing, IsRawTag tag ∧ text = tag ++ rest ∧
        rest.head?.any Character.isWord = false ∧ IsClosing tag closing ∧ closing <:+: rest := by
  constructor
  · rintro ⟨_, ⟨tag, inner, closing, parts, rfl⟩, ⟨behind, equal⟩⟩
    refine ⟨tag, inner ++ closing ++ behind, closing, parts.isTag, ?_, ?_, parts.isClosing,
      ⟨inner, behind, rfl⟩⟩
    · simpa using (List.cons.inj equal).2.symm
    · rw [parts.head?_append]
      exact parts.boundary
  · rintro ⟨tag, rest, closing, isTag, rfl, boundary, isClosing, inside⟩
    rcases exists_encloses isClosing inside with ⟨inner, first, encloses, ⟨behind, rfl⟩⟩
    rw [encloses.head?_append] at boundary
    exact ⟨_, ⟨tag, inner, first, ⟨encloses, isTag, boundary⟩, rfl⟩, behind, by simp⟩

end Stencil.Minify
