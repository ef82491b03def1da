import Mathlib.Data.List.DropRight
import Mathlib.Data.List.Sort
import Stencil.Proofs.Template.Header
import Stencil.Proofs.Text.Blank

/-!
Which places of a document the candidate scan takes, told by the word runs on either side of a colon
and a space. Whether a place is taken depends on earlier ones only where its name is already the
type of one of them.
-/

namespace Stencil.Candidate

/-- Whether a colon and a space stand at `place`. -/
def SeparatesAt (text : List Char) (place : Nat) : Prop :=
  ∃ behind, text.drop place = ':' :: ' ' :: behind

/-- The whole word run that ends just before `place`. -/
def nameBefore (text : List Char) (place : Nat) : List Char :=
  (text.take place).rtakeWhile Character.isWord

/-- The whole word run that begins behind the colon and the space at `place`. -/
def typeAfter (text : List Char) (place : Nat) : List Char :=
  (text.drop (place + 2)).takeWhile Character.isWord

/-- The text of the candidate at `place`. -/
def spelledAt (text : List Char) (place : Nat) : List Char :=
  nameBefore text place ++ ':' :: ' ' :: typeAfter text place

/-- A place at which a candidate may stand: a name with a type, a name at the end of a line, of the
header or of the text, or a type alone. -/
structure IsEligible (text : List Char) (place : Nat) : Prop where
  separates : SeparatesAt text place
  sides : (nameBefore text place ≠ [] ∧
      (typeAfter text place ≠ [] ∨ text[place + 2]? ∈ [none, some '\n', some '\x7d'])) ∨
    (nameBefore text place = [] ∧ typeAfter text place ≠ [])

/-- Whether the name at `place` is the same run as the type at `earlier`. -/
structure Blocks (text : List Char) (earlier place : Nat) : Prop where
  named : nameBefore text place ≠ []
  same : typeAfter text earlier = nameBefore text place
  ends : earlier + 2 + (typeAfter text earlier).length = place

/-- The places of all candidates: the eligible ones that no other of them blocks. -/
structure IsSelection (text : List Char) (places : List Nat) : Prop where
  increasing : places.Pairwise (· < ·)
  mem_iff : ∀ place, place ∈ places ↔
    IsEligible text place ∧ ∀ earlier ∈ places, ¬Blocks text earlier place

theorem Blocks.lt {text : List Char} {earlier place : Nat} (blocks : Blocks text earlier place) :
    earlier < place := by
  have ends := blocks.ends
  omega

/-- Whether a selection holds `place`, by recursion on the places before it. -/
def IsTaken (text : List Char) (place : Nat) : Prop :=
  IsEligible text place ∧
    ∀ earlier, earlier < place → Blocks text earlier place → ¬IsTaken text earlier
termination_by place

theorem isTaken_iff {text : List Char} {place : Nat} :
    IsTaken text place ↔
      IsEligible text place ∧ ∀ earlier, IsTaken text earlier → ¬Blocks text earlier place := by
  rw [IsTaken]
  constructor
  · rintro ⟨eligible, free⟩
    exact ⟨eligible, fun earlier taken blocks => free earlier blocks.lt blocks taken⟩
  · rintro ⟨eligible, free⟩
    exact ⟨eligible, fun earlier _ blocks taken => free earlier taken blocks⟩

theorem IsTaken.separates {text : List Char} {place : Nat} (taken : IsTaken text place) :
    SeparatesAt text place :=
  (isTaken_iff.mp taken).1.separates

theorem IsSelection.mem_iff_isTaken {text : List Char} {places : List Nat}
    (selection : IsSelection text places) (place : Nat) :
    place ∈ places ↔ IsTaken text place := by
  induction place using Nat.strong_induction_on with
  | _ place induction =>
      rw [selection.mem_iff, isTaken_iff]
      apply and_congr_right
      intro _
      apply forall_congr'
      intro earlier
      constructor
      · intro free taken blocks
        exact free ((induction earlier blocks.lt).mpr taken) blocks
      · intro free member blocks
        exact free ((induction earlier blocks.lt).mp member) blocks

/-- A text has one selection only. -/
theorem IsSelection.unique {text : List Char} {places others : List Nat}
    (selection : IsSelection text places) (other : IsSelection text others) : others = places := by
  apply List.Pairwise.eq_of_mem_iff other.increasing selection.increasing
  intro place
  rw [other.mem_iff_isTaken, selection.mem_iff_isTaken]

/-! ## The runs beside a place -/

section Place

variable {text : List Char} {place : Nat}

theorem take_succ_of_drop {c : Char} {rest : List Char} (here : text.drop place = c :: rest) :
    text.take (place + 1) = text.take place ++ [c] ∧ text.drop (place + 1) = rest := by
  have found : text[place]? = some c := by
    rw [← List.head?_drop, here]
    rfl
  refine ⟨by rw [List.take_add_one, found]; rfl, ?_⟩
  rw [← List.tail_drop, here, List.tail_cons]

theorem nameBefore_word {c : Char} {rest : List Char} (here : text.drop place = c :: rest)
    (word : Character.isWord c = true) :
    nameBefore text (place + 1) = nameBefore text place ++ [c] := by
  rw [nameBefore, (take_succ_of_drop here).1, List.rtakeWhile_concat_pos _ _ _ word, nameBefore]

theorem nameBefore_other {c : Char} {rest : List Char} (here : text.drop place = c :: rest)
    (noWord : Character.isWord c = false) : nameBefore text (place + 1) = [] := by
  rw [nameBefore, (take_succ_of_drop here).1, List.rtakeWhile_concat_neg _ _ _ (by simp [noWord])]

theorem separatesAt_behind {behind : List Char} (here : text.drop place = ':' :: ' ' :: behind) :
    text.drop (place + 1) = ' ' :: behind ∧ text.drop (place + 2) = behind :=
  have first := take_succ_of_drop here
  ⟨first.2, (take_succ_of_drop first.2).2⟩

theorem nameBefore_behind {behind : List Char} (here : text.drop place = ':' :: ' ' :: behind) :
    nameBefore text (place + 2) = [] :=
  nameBefore_other (separatesAt_behind here).1 (by decide)

theorem typeAfter_eq {behind : List Char} (here : text.drop place = ':' :: ' ' :: behind) :
    typeAfter text place = behind.takeWhile Character.isWord := by
  rw [typeAfter, (separatesAt_behind here).2]

theorem endsDeclaration_iff {behind : List Char}
    (here : text.drop place = ':' :: ' ' :: behind) :
    endsDeclaration behind = true ↔ text[place + 2]? ∈ [none, some '\n', some '\x7d'] := by
  rw [← List.head?_drop, (separatesAt_behind here).2]
  cases behind with
  | nil => simp [endsDeclaration]
  | cons c behind => simp [endsDeclaration]

/-- The run before a place lies between the start of the text and that place. -/
theorem exists_take_eq (text : List Char) (place : Nat) :
    ∃ front, text.take place = front ++ nameBefore text place :=
  have ⟨front, whole⟩ := List.rtakeWhile_suffix Character.isWord (text.take place)
  ⟨front, whole.symm⟩

theorem nameBefore_words : ∀ c ∈ nameBefore text place, Character.isWord c = true :=
  fun _ member => List.mem_rtakeWhile_imp member

/-- A type that ends at the next colon is the name before that colon. -/
theorem typeAfter_eq_nameBefore {earlier : Nat} (separates : SeparatesAt text place)
    (ends : earlier + 2 + (nameBefore text place).length = place) :
    typeAfter text earlier = nameBefore text place := by
  rcases separates with ⟨behind, here⟩
  rcases exists_take_eq text place with ⟨front, whole⟩
  have within : place ≤ text.length := by
    have length := congrArg List.length here
    simp only [List.length_drop, List.length_cons] at length
    omega
  have start : front.length = earlier + 2 := by
    have length := congrArg List.length whole
    rw [List.length_take, Nat.min_eq_left within, List.length_append] at length
    omega
  have rest : text.drop (earlier + 2) = nameBefore text place ++ ':' :: ' ' :: behind := by
    rw [← here, ← start]
    conv_lhs => rw [← List.take_append_drop place text, whole, List.append_assoc]
    exact List.drop_left
  rw [typeAfter, rest, takeWhile_append_cons (by decide)]
  exact List.takeWhile_eq_self_iff.mpr nameBefore_words

end Place

/-! ## The scan -/

/-- Whether the run before `place` is, as far as it goes, the type of a place that is taken. -/
def IsSpent (text : List Char) (place : Nat) : Prop :=
  ∃ earlier, IsTaken text earlier ∧ typeAfter text earlier ≠ [] ∧
    earlier + 2 + (nameBefore text place).length = place

/-- What the scan knows of the run before `place`. -/
def Tracks (text : List Char) (place : Nat) : Before → Prop
  | .free reversed => reversed.reverse = nameBefore text place ∧ ¬IsSpent text place
  | .spent => IsSpent text place

section Scan

variable {text : List Char} {place : Nat}

theorem isSpent_word {c : Char} {rest : List Char} (here : text.drop place = c :: rest)
    (word : Character.isWord c = true) : IsSpent text (place + 1) ↔ IsSpent text place := by
  rw [IsSpent, IsSpent, nameBefore_word here word, List.length_append, List.length_singleton]
  simp only [← Nat.add_assoc, Nat.add_right_cancel_iff]

theorem not_isSpent_other {c : Char} {rest : List Char} (here : text.drop place = c :: rest)
    (noWord : Character.isWord c = false)
    (outside : ∀ earlier, SeparatesAt text earlier → earlier + 1 ≠ place) :
    ¬IsSpent text (place + 1) := by
  rintro ⟨earlier, taken, -, ends⟩
  rw [nameBefore_other here noWord, List.length_nil] at ends
  exact outside earlier taken.separates (by omega)

theorem isSpent_behind {behind : List Char} (here : text.drop place = ':' :: ' ' :: behind) :
    IsSpent text (place + 2) ↔ IsTaken text place ∧ typeAfter text place ≠ [] := by
  rw [IsSpent, nameBefore_behind here, List.length_nil]
  constructor
  · rintro ⟨earlier, taken, typed, ends⟩
    obtain rfl : earlier = place := by omega
    exact ⟨taken, typed⟩
  · rintro ⟨taken, typed⟩
    exact ⟨place, taken, typed, rfl⟩

theorem isTaken_iff_not_isSpent (separates : SeparatesAt text place) :
    IsTaken text place ↔ IsEligible text place ∧ ¬IsSpent text place := by
  rw [isTaken_iff]
  apply and_congr_right
  intro _
  constructor
  · rintro free ⟨earlier, taken, typed, ends⟩
    -- At a colon the run is over, so the type that it began is the whole of it.
    have same := typeAfter_eq_nameBefore separates ends
    exact free earlier taken ⟨same ▸ typed, same, same ▸ ends⟩
  · intro free earlier taken blocks
    exact free ⟨earlier, taken, blocks.same ▸ blocks.named, blocks.same ▸ blocks.ends⟩

theorem around?_nil (behind : List Char) : around? (.free []) behind =
    if (behind.takeWhile Character.isWord).isEmpty then none
    else some ⟨[], behind.takeWhile Character.isWord⟩ := rfl

theorem around?_cons (c : Char) (reversed behind : List Char) :
    around? (.free (c :: reversed)) behind =
      if (behind.takeWhile Character.isWord).isEmpty && !endsDeclaration behind then none
      else some ⟨(c :: reversed).reverse, behind.takeWhile Character.isWord⟩ := rfl

/-- The scan finds a candidate at a place if and only if the place is taken. -/
theorem around?_eq_some_iff {before : Before} (tracks : Tracks text place before)
    {behind : List Char} (here : text.drop place = ':' :: ' ' :: behind) {candidate : Candidate} :
    around? before behind = some candidate ↔
      IsTaken text place ∧ candidate = ⟨nameBefore text place, typeAfter text place⟩ := by
  have eligible : IsEligible text place ↔ _ :=
    ⟨IsEligible.sides, fun sides => ⟨⟨behind, here⟩, sides⟩⟩
  rw [isTaken_iff_not_isSpent ⟨behind, here⟩, eligible, ← endsDeclaration_iff here,
    typeAfter_eq here]
  cases before with
  | spent =>
      constructor
      · intro found
        cases found
      · rintro ⟨⟨_, free⟩, _⟩
        exact absurd tracks free
  | free reversed =>
      rcases tracks with ⟨run, free⟩
      rw [← run]
      cases reversed with
      | nil =>
          rw [around?_nil, Option.ite_none_left_eq_some, Option.some_inj, @eq_comm _ _ candidate]
          simp [free]
      | cons c reversed =>
          rw [around?_cons, Option.ite_none_left_eq_some, Option.some_inj, @eq_comm _ _ candidate]
          generalize behind.takeWhile Character.isWord = type
          generalize endsDeclaration behind = ends
          cases type <;> cases ends <;> simp [free]

theorem tracks_behind {before : Before} (tracks : Tracks text place before) {behind : List Char}
    (here : text.drop place = ':' :: ' ' :: behind) :
    Tracks text (place + 2) (beforeRest (around? before behind)) := by
  have free (noType : ¬(IsTaken text place ∧ typeAfter text place ≠ [])) :
      Tracks text (place + 2) (.free []) :=
    ⟨(nameBefore_behind here).symm, fun spent => noType ((isSpent_behind here).mp spent)⟩
  cases found : around? before behind with
  | none =>
      apply free
      rintro ⟨taken, -⟩
      rw [(around?_eq_some_iff tracks here).mpr ⟨taken, rfl⟩] at found
      cases found
  | some candidate =>
      rcases (around?_eq_some_iff tracks here).mp found with ⟨taken, rfl⟩
      cases type : typeAfter text place with
      | nil => exact free fun typed => typed.2 type
      | cons c type' => exact (isSpent_behind here).mpr ⟨taken, type ▸ List.cons_ne_nil c type'⟩

/-- The run behind a character at which no candidate stands. -/
def Before.next (c : Char) (before : Before) : Before :=
  if Character.isWord c then
    match before with
    | .free reversed => .free (c :: reversed)
    | .spent => .spent
  else .free []

theorem tracks_next {before : Before} (tracks : Tracks text place before) {c : Char}
    {rest : List Char} (here : text.drop place = c :: rest)
    (outside : ∀ earlier, SeparatesAt text earlier → earlier + 1 ≠ place) :
    Tracks text (place + 1) (before.next c) := by
  unfold Before.next
  cases word : Character.isWord c with
  | false =>
      exact ⟨(nameBefore_other here word).symm, not_isSpent_other here word outside⟩
  | true =>
      cases before with
      | spent => exact (isSpent_word here word).mpr tracks
      | free reversed =>
          refine ⟨?_, fun spent => tracks.2 ((isSpent_word here word).mp spent)⟩
          rw [nameBefore_word here word, List.reverse_cons, tracks.1]

/-- The candidates of the places that are taken from `place` on. -/
def TakenFrom (text : List Char) (place : Nat) (found : List Candidate) : Prop :=
  ∃ places : List Nat, places.Pairwise (· < ·) ∧
    (∀ other, other ∈ places ↔ place ≤ other ∧ IsTaken text other) ∧
    found = places.map fun other => ⟨nameBefore text other, typeAfter text other⟩

theorem takenFrom_end (ended : text.drop place = []) : TakenFrom text place [] := by
  refine ⟨[], .nil, fun other => ?_, rfl⟩
  simp only [List.not_mem_nil, false_iff]
  intro both
  rcases both.2.separates with ⟨behind, here⟩
  have none : text.drop other = [] :=
    List.drop_eq_nil_of_le (Nat.le_trans (List.drop_eq_nil_iff.mp ended) both.1)
  rw [none] at here
  cases here

theorem TakenFrom.skip {found : List Candidate} (later : TakenFrom text (place + 1) found)
    (free : ¬IsTaken text place) : TakenFrom text place found := by
  rcases later with ⟨places, increasing, member, same⟩
  refine ⟨places, increasing, fun other => ?_, same⟩
  rw [member]
  constructor
  · intro both
    exact ⟨Nat.le_of_succ_le both.1, both.2⟩
  · intro both
    have different : place ≠ other := by
      intro equal
      exact free (equal ▸ both.2)
    exact ⟨Nat.lt_of_le_of_ne both.1 different, both.2⟩

theorem TakenFrom.take {found : List Candidate} (later : TakenFrom text (place + 1) found)
    (taken : IsTaken text place) :
    TakenFrom text place (⟨nameBefore text place, typeAfter text place⟩ :: found) := by
  rcases later with ⟨places, increasing, member, same⟩
  have beyond : ∀ other ∈ places, place < other := fun other inside => ((member other).mp inside).1
  refine ⟨place :: places, List.pairwise_cons.mpr ⟨beyond, increasing⟩, fun other => ?_, ?_⟩
  · rw [List.mem_cons, member]
    constructor
    · intro either
      rcases either with rfl | both
      · exact ⟨Nat.le_refl _, taken⟩
      · exact ⟨Nat.le_of_succ_le both.1, both.2⟩
    · intro both
      rcases Nat.eq_or_lt_of_le both.1 with equal | less
      · exact .inl equal.symm
      · exact .inr ⟨less, both.2⟩
  · rw [same, List.map_cons]

theorem not_separatesAt_behind {behind : List Char}
    (here : text.drop place = ':' :: ' ' :: behind) : ¬SeparatesAt text (place + 1) := by
  intro separates
  rcases separates with ⟨_, there⟩
  rw [(separatesAt_behind here).1] at there
  cases there

/-- The scan goes on at `place` with the candidates of the places that are taken from there on. -/
theorem takenFrom_scan {before : Before} (tracks : Tracks text place before)
    (outside : ∀ earlier, SeparatesAt text earlier → earlier + 1 ≠ place) :
    TakenFrom text place (scan before (text.drop place)) := by
  generalize here : text.drop place = left
  fun_induction scan before left generalizing place with
  | case1 before => exact takenFrom_end here
  | case2 before behind found =>
      rename_i induction
      -- The colon and the space are read in one step, and no candidate stands at the space.
      have outsideNext : ∀ earlier, SeparatesAt text earlier → earlier + 1 ≠ place + 2 := by
        intro earlier separates equal
        rw [Nat.succ.inj equal] at separates
        exact not_separatesAt_behind here separates
      have later := induction (tracks_behind tracks here) outsideNext (separatesAt_behind here).2
      have next : TakenFrom text (place + 1) _ :=
        later.skip fun taken => not_separatesAt_behind here taken.separates
      show TakenFrom text place ((around? before behind).toList ++ _)
      cases around : around? before behind with
      | none =>
          apply next.skip
          intro taken
          rw [(around?_eq_some_iff tracks here).mpr ⟨taken, rfl⟩] at around
          cases around
      | some candidate =>
          rcases (around?_eq_some_iff tracks here).mp around with ⟨taken, rfl⟩
          exact next.take taken
  | case3 before c behind notSeparator induction =>
      have noneHere : ¬SeparatesAt text place := by
        intro separates
        rcases separates with ⟨rest, there⟩
        rw [here] at there
        rcases List.cons.inj there with ⟨colon, equal⟩
        exact notSeparator rest colon equal
      have outsideNext : ∀ earlier, SeparatesAt text earlier → earlier + 1 ≠ place + 1 := by
        intro earlier separates equal
        rw [Nat.succ.inj equal] at separates
        exact noneHere separates
      have later := induction (tracks_next tracks here outside) outsideNext
        (take_succ_of_drop here).2
      exact later.skip fun taken => noneHere taken.separates

end Scan

/-! ## Overlap -/

/-- A word run at the start of a text and one at its end are apart, unless the text is one word. -/
theorem length_runs_le (text : List Char) :
    (∀ c ∈ text, Character.isWord c = true) ∨
      (text.takeWhile Character.isWord).length + (text.rtakeWhile Character.isWord).length ≤
        text.length := by
  by_cases words : ∀ c ∈ text, Character.isWord c = true
  · exact .inl words
  · right
    have whole := List.takeWhile_append_dropWhile (p := Character.isWord) (l := text)
    cases rest : text.dropWhile Character.isWord with
    | nil =>
        rw [rest, List.append_nil] at whole
        exact absurd (List.takeWhile_eq_self_iff.mp whole) words
    | cons c behind =>
        have noWord : Character.isWord c = false := by
          have stops := head?_dropWhile_any Character.isWord text
          rw [rest] at stops
          exact stops
        have last : text.rtakeWhile Character.isWord = behind.rtakeWhile Character.isWord := by
          rw [← whole, rest, List.rtakeWhile, List.rtakeWhile, List.reverse_append,
            List.reverse_cons, List.append_assoc, List.singleton_append,
            takeWhile_append_cons noWord]
        have short := (List.rtakeWhile_suffix Character.isWord behind).length_le
        have length := congrArg List.length whole
        rw [rest, List.length_append, List.length_cons] at length
        rw [last]
        omega

section Between

variable {text between behind : List Char} {earlier later : Nat}

/-- Two separators, one behind the other, with the text between them. -/
theorem exists_between (separates : SeparatesAt text earlier) (separatesToo : SeparatesAt text later)
    (before : earlier < later) :
    ∃ between behind, text.drop (earlier + 2) = between ++ ':' :: ' ' :: behind ∧
      text.take later = text.take (earlier + 1) ++ ' ' :: between ∧
      earlier + 2 + between.length = later := by
  rcases separates with ⟨behind, here⟩
  rcases separatesToo with ⟨behindLater, there⟩
  have next := separatesAt_behind here
  have apart : later ≠ earlier + 1 := by
    rintro rfl
    rw [next.1] at there
    cases there
  obtain ⟨distance, rfl⟩ : ∃ distance, later = earlier + 2 + distance :=
    ⟨later - (earlier + 2), by omega⟩
  rw [← List.drop_drop] at there
  have within := congrArg List.length there
  simp only [List.length_drop, List.length_cons] at within
  refine ⟨(text.drop (earlier + 2)).take distance, behindLater, ?_, ?_, ?_⟩
  · rw [← there, List.take_append_drop]
  · rw [List.take_add, (take_succ_of_drop next.1).1, List.append_assoc]
    rfl
  · rw [List.length_take, List.length_drop]
    omega

theorem typeAfter_of_between (between_eq : text.drop (earlier + 2) = between ++ ':' :: behind) :
    typeAfter text earlier = between.takeWhile Character.isWord := by
  rw [typeAfter, between_eq, takeWhile_append_cons (by decide)]

theorem nameBefore_of_between {front : List Char}
    (between_eq : text.take later = front ++ ' ' :: between) :
    nameBefore text later = between.rtakeWhile Character.isWord := by
  rw [nameBefore, between_eq, List.rtakeWhile, List.rtakeWhile, List.reverse_append,
    List.reverse_cons, List.append_assoc, List.singleton_append, takeWhile_append_cons (by decide)]

/-- The candidates of two places lie apart: one word between them would block the second. -/
theorem not_overlap (taken : IsTaken text earlier) (takenToo : IsTaken text later)
    (before : earlier < later) :
    earlier + 2 + (typeAfter text earlier).length + (nameBefore text later).length ≤ later := by
  rcases exists_between taken.separates takenToo.separates before with
    ⟨between, behind, after, ahead, distance⟩
  have type := typeAfter_of_between after
  have name := nameBefore_of_between ahead
  rcases length_runs_le between with words | apart
  · have wholeType : typeAfter text earlier = between := by
      rw [type, List.takeWhile_eq_self_iff]
      exact words
    have wholeName : nameBefore text later = between := by
      rw [name, List.rtakeWhile_eq_self_iff]
      exact words
    by_cases empty : between = []
    · rw [wholeType, wholeName, ← distance, empty]
      exact Nat.le_refl _
    · have blocks : Blocks text earlier later :=
        ⟨wholeName ▸ empty, wholeType.trans wholeName.symm, wholeType ▸ distance⟩
      exact absurd blocks ((isTaken_iff.mp takenToo).2 earlier taken)
  · rw [type, name]
    omega

end Between

end Stencil.Candidate

namespace Stencil

/-- The candidates of a document are those of its one selection, which do not overlap. -/
theorem candidates_isSelection (document : String) :
    ∃ places, Candidate.IsSelection document.toList places ∧
      (∀ others, Candidate.IsSelection document.toList others → others = places) ∧
      (candidates document).map Candidate.text =
        places.map (Candidate.spelledAt document.toList) ∧
      places.Pairwise fun earlier later =>
        earlier + 2 + (Candidate.typeAfter document.toList earlier).length +
          (Candidate.nameBefore document.toList later).length ≤ later := by
  have start : Candidate.Tracks document.toList 0 (.free []) := by
    refine ⟨rfl, ?_⟩
    rintro ⟨earlier, -, -, ends⟩
    omega
  rcases Candidate.takenFrom_scan start (fun earlier _ => Nat.succ_ne_zero earlier) with
    ⟨places, increasing, member, found⟩
  have taken : ∀ place, place ∈ places ↔ Candidate.IsTaken document.toList place := by
    intro place
    rw [member]
    exact and_iff_right (Nat.zero_le place)
  have selection : Candidate.IsSelection document.toList places := by
    refine ⟨increasing, fun place => ?_⟩
    simp only [taken]
    exact Candidate.isTaken_iff
  refine ⟨places, selection, fun others other => selection.unique other, ?_, ?_⟩
  · show (Candidate.scan (.free []) document.toList).map Candidate.text = _
    rw [← List.drop_zero (l := document.toList), found, List.map_map]
    rfl
  · apply increasing.imp_of_mem
    intro earlier later inPlaces inPlacesToo before
    exact Candidate.not_overlap ((taken earlier).mp inPlaces) ((taken later).mp inPlacesToo) before

end Stencil
