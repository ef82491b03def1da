import Stencil.Proofs.Text.Ascii
import Stencil.Template.Identifier

/-!
Names fit for the generated class. Quoting makes every name fit and leaves a fit name as it is, so
a name that was quoted once can be quoted again without harm.
-/

namespace Stencil.Identifier

/-- A name that needs no quoting. -/
structure IsFit (name : List Char) : Prop where
  nonempty : name ≠ []
  words : ∀ c ∈ name, Character.isWord c = true
  start : name.head?.any Character.isDigit = false
  free : isTaken name = false

theorem wordsOnly_words (name : List Char) : ∀ c ∈ wordsOnly name, Character.isWord c = true := by
  intro c member
  rcases List.mem_map.mp member with ⟨original, -, rfl⟩
  split
  · assumption
  · decide

theorem wordsOnly_of_words {name : List Char} (words : ∀ c ∈ name, Character.isWord c = true) :
    wordsOnly name = name := by
  rw [wordsOnly]
  conv => rhs; rw [← List.map_id name]
  apply List.map_congr_left
  intro c member
  simp [words c member]

theorem guardStart_ne_nil (name : List Char) : guardStart name ≠ [] := by
  cases name with
  | nil => simp [guardStart]
  | cons c rest => rw [guardStart]; split <;> simp

theorem guardStart_words {name : List Char} (words : ∀ c ∈ name, Character.isWord c = true) :
    ∀ c ∈ guardStart name, Character.isWord c = true := by
  have underscore : Character.isWord '_' = true := by decide
  cases name with
  | nil => simpa [guardStart] using underscore
  | cons c rest =>
      rw [guardStart]
      split
      · exact List.forall_mem_cons.mpr ⟨underscore, words⟩
      · exact words

theorem guardStart_start (name : List Char) :
    (guardStart name).head?.any Character.isDigit = false := by
  have underscore : Character.isDigit '_' = false := by decide
  cases name with
  | nil => simp [guardStart, underscore]
  | cons c rest =>
      rw [guardStart]
      split
      · simp [underscore]
      · simpa using ‹¬Character.isDigit c = true›

theorem guardStart_of_start {name : List Char} (nonempty : name ≠ [])
    (start : name.head?.any Character.isDigit = false) : guardStart name = name := by
  cases name with
  | nil => exact absurd rfl nonempty
  | cons c rest => simp_all [guardStart]

/-- No taken name is another one with an underscore behind it. -/
theorem isTaken_append_underscore {name : List Char} (taken : isTaken name = true) :
    isTaken (name ++ ['_']) = false := by
  rcases List.any_eq_true.mp taken with ⟨word, member, equal⟩
  rw [← eq_of_beq equal]
  exact (by decide +kernel : ∀ word ∈ keywords ++ memberNames,
    isTaken (word.toList ++ ['_']) = false) word member

theorem guardEnd_free (name : List Char) : isTaken (guardEnd name) = false := by
  rw [guardEnd]
  split
  · exact isTaken_append_underscore ‹_›
  · simpa using ‹¬isTaken name = true›

theorem quote_isFit (name : List Char) : IsFit (quote name) := by
  have underscore : Character.isWord '_' = true := by decide
  have words := guardStart_words (wordsOnly_words name)
  have start := guardStart_start (wordsOnly name)
  have nonempty := guardStart_ne_nil (wordsOnly name)
  refine ⟨?_, ?_, ?_, guardEnd_free _⟩ <;> rw [quote, guardEnd]
  · split <;> simp [nonempty]
  · split
    · exact List.forall_mem_append.mpr ⟨words, by simpa using underscore⟩
    · exact words
  · split
    · rw [List.head?_append, List.head?_eq_some_head nonempty, Option.some_or,
        ← List.head?_eq_some_head nonempty]
      exact start
    · exact start

theorem quote_of_isFit {name : List Char} (fit : IsFit name) : quote name = name := by
  rw [quote, wordsOnly_of_words fit.words, guardStart_of_start fit.nonempty fit.start, guardEnd,
    fit.free]
  simp

theorem quote_quote (name : List Char) : quote (quote name) = quote name :=
  quote_of_isFit (quote_isFit name)

/-- An ASCII name is quoted to an ASCII name, and no other one is. -/
theorem quote_isAscii {name : List Char} (ascii : ∀ c ∈ name, Character.IsAscii c) :
    ∀ c ∈ quote name, Character.IsAscii c := by
  have underscore : Character.IsAscii '_' := by decide
  have words : ∀ c ∈ wordsOnly name, Character.IsAscii c := by
    intro c member
    rcases List.mem_map.mp member with ⟨original, from_name, rfl⟩
    split
    · exact ascii original from_name
    · exact underscore
  have guarded : ∀ c ∈ guardStart (wordsOnly name), Character.IsAscii c := by
    cases equal : wordsOnly name with
    | nil => simpa [guardStart] using underscore
    | cons c rest =>
        rw [equal] at words
        rw [guardStart]
        split
        · exact List.forall_mem_cons.mpr ⟨underscore, words⟩
        · exact words
  rw [quote, guardEnd]
  split
  · exact List.forall_mem_append.mpr ⟨guarded, by simpa using underscore⟩
  · exact guarded

end Identifier

theorem toIdentifier_toIdentifier (name : String) :
    toIdentifier (toIdentifier name) = toIdentifier name := by
  simp only [toIdentifier, String.toList_ofList, Identifier.quote_quote]

end Stencil
