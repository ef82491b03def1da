import Mathlib.Algebra.Group.Nat.Defs
import Mathlib.Data.List.DropRight
import Stencil.Number.Numeral

/-!
Decimal numerals of natural numbers, read back: a numeral with no more digits than are allowed is
read as its number, and one with more is not read.
-/

namespace Stencil

/-! ## The digits of a number -/

/-- The decimal digits of a number. -/
def digitsOf (n : Nat) : List Char := (toString n).toList

theorem digitsOf_eq (n : Nat) : digitsOf n = Nat.toDigits 10 n := by
  rw [digitsOf, Nat.toString_eq_repr, Nat.toList_repr]

theorem bounds_of_mem_digitsOf {n : Nat} {c : Char} (member : c ∈ digitsOf n) :
    0x30 ≤ c.toNat ∧ c.toNat ≤ 0x39 := by
  rw [digitsOf_eq] at member
  exact Char.isDigit_iff_toNat.mp (Nat.isDigit_of_mem_toDigits (by omega) (by omega) member)

theorem exists_digitsOf_cons (n : Nat) : ∃ c rest, digitsOf n = c :: rest ∧
    0x30 ≤ c.toNat ∧ c.toNat ≤ 0x39 := by
  have filled : digitsOf n ≠ [] := by
    rw [digitsOf_eq]
    exact Nat.toDigits_ne_nil
  rcases List.exists_cons_of_ne_nil filled with ⟨c, rest, equal⟩
  refine ⟨c, rest, equal, bounds_of_mem_digitsOf (n := n) ?_⟩
  rw [equal]
  exact List.mem_cons_self

theorem ofDigitChars_digitsOf (n : Nat) : Nat.ofDigitChars 10 (digitsOf n) 0 = n := by
  rw [digitsOf_eq, Nat.ofDigitChars_ten_toDigits]

theorem toString_injective {m n : Nat} (same : toString m = toString n) : m = n := by
  have digits : digitsOf m = digitsOf n := congrArg String.toList same
  rw [← ofDigitChars_digitsOf m, digits, ofDigitChars_digitsOf]

theorem ofDigitChars_lt {digits : List Char} (bounds : ∀ c ∈ digits, c.toNat ≤ 0x39) :
    Nat.ofDigitChars 10 digits 0 < 10 ^ digits.length := by
  induction digits with
  | nil => decide
  | cons c rest induction =>
      rcases List.forall_mem_cons.mp bounds with ⟨first, others⟩
      have below := induction others
      have digit : c.toNat - '0'.toNat ≤ 9 := by
        change c.toNat - 0x30 ≤ 9
        omega
      rw [Nat.ofDigitChars_cons, Nat.ofDigitChars_eq_ofDigitChars_zero, List.length_cons,
        Nat.mul_zero, Nat.zero_add]
      calc 10 ^ rest.length * (c.toNat - '0'.toNat) + Nat.ofDigitChars 10 rest 0
        _ < 10 ^ rest.length * (c.toNat - '0'.toNat) + 10 ^ rest.length := by omega
        _ = 10 ^ rest.length * (c.toNat - '0'.toNat + 1) := (Nat.mul_succ _ _).symm
        _ ≤ 10 ^ rest.length * 10 := Nat.mul_le_mul_left _ (by omega)
        _ = 10 ^ (rest.length + 1) := (Nat.pow_succ _ _).symm

/-- No numeral of two digits or more begins with a zero. -/
theorem head_digitsOf_ne_zero {n : Nat} {c : Char} {rest : List Char}
    (equal : digitsOf n = c :: rest) (more : rest ≠ []) : c ≠ '0' := by
  intro zero
  subst c
  have counted : 0 < rest.length := List.length_pos_iff.mpr more
  have value := ofDigitChars_digitsOf n
  rw [equal, Nat.ofDigitChars_cons] at value
  have below : n < 10 ^ rest.length := by
    rw [← value]
    apply ofDigitChars_lt
    intro c member
    apply (bounds_of_mem_digitsOf (n := n) _).2
    rw [equal]
    exact List.mem_cons_of_mem _ member
  have length := (Nat.length_toDigits_le_iff (by omega) counted).mpr below
  rw [← digitsOf_eq, equal, List.length_cons] at length
  omega

/-! ## Numerals as people type them -/

namespace Numeral

theorem naturalOf_eq (digits : List Char) : naturalOf digits = Nat.ofDigitChars 10 digits 0 := by
  rw [Nat.ofDigitChars_eq_foldl, naturalOf]
  congr 1
  funext value c
  rw [Nat.mul_comm]

theorem trimmed_eq (text : String) :
    trimmed text = ((text.toList.map plainCharacter).dropWhile Character.isAsciiBlank).rdropWhile
      Character.isAsciiBlank :=
  rfl

theorem trimmed_digitsOf (n : Nat) : trimmed (toString n) = digitsOf n := by
  have plain : (digitsOf n).map plainCharacter = digitsOf n := by
    have each : ∀ c ∈ digitsOf n, plainCharacter c = id c := by
      intro c member
      have bounds := bounds_of_mem_digitsOf member
      exact if_pos (by omega)
    rw [List.map_congr_left each, List.map_id]
  have filled : ∀ c ∈ digitsOf n, ¬ Character.isAsciiBlank c = true := by
    intro c member
    have bounds := bounds_of_mem_digitsOf member
    have noSpace : c ≠ ' ' := by
      intro same
      subst c
      exact absurd bounds.1 (by decide)
    simp [Character.isAsciiBlank, noSpace]
    omega
  rw [trimmed_eq, ← digitsOf, plain, List.dropWhile_eq_self_iff.mpr,
    List.rdropWhile_eq_self_iff.mpr]
  · intro nonempty
    exact filled _ (List.getLast_mem nonempty)
  · intro nonempty
    exact filled _ (List.getElem_mem nonempty)

theorem splitSign_cons {c : Char} (noMinus : c ≠ '-') (noPlus : c ≠ '+') (rest : List Char) :
    splitSign (c :: rest) = (false, c :: rest) := by
  rw [splitSign]
  · intro after same
    exact noMinus (List.cons.inj same).1
  · intro after same
    exact noPlus (List.cons.inj same).1

theorem withoutUnderscores?_cons {isDigit : Char → Bool} {c : Char} (other : c ≠ '_')
    (last : Char) (rest : List Char) :
    withoutUnderscores? isDigit last (c :: rest) =
      (withoutUnderscores? isDigit c rest).map (c :: ·) := by
  rw [withoutUnderscores?, if_pos (by simp [other])]

theorem withoutUnderscores?_of_notMem {isDigit : Char → Bool} {text : List Char}
    (none : '_' ∉ text) (last : Char) : withoutUnderscores? isDigit last text = some text := by
  induction text generalizing last with
  | nil => rfl
  | cons c rest induction =>
      rw [List.mem_cons, not_or] at none
      rw [withoutUnderscores?_cons (Ne.symm none.1), induction none.2, Option.map_some]

/-- The numeral of a number is read as the number if it is not too long. -/
theorem integer?_toString (n : Nat) :
    integer? (toString n) =
      if longestInteger < (digitsOf n).length then none else some (n : Int) := by
  rcases exists_digitsOf_cons n with ⟨c, rest, equal, bounds⟩
  have unsigned : splitSign (digitsOf n) = (false, digitsOf n) := by
    rw [equal, splitSign_cons]
    · intro same
      subst c
      exact absurd bounds.1 (by decide)
    · intro same
      subst c
      exact absurd bounds.1 (by decide)
  have single : '_' ∉ digitsOf n := fun member =>
    absurd (bounds_of_mem_digitsOf member).2 (by decide)
  have filled : (digitsOf n).isEmpty = false := by rw [equal, List.isEmpty_cons]
  have digits : (digitsOf n).all Char.isDigit = true := by
    rw [List.all_eq_true]
    intro c member
    exact Char.isDigit_iff_toNat.mpr (bounds_of_mem_digitsOf member)
  have value : naturalOf (digitsOf n) = n := by rw [naturalOf_eq, ofDigitChars_digitsOf]
  simp only [integer?, trimmed_digitsOf, unsigned, withoutUnderscores?_of_notMem single,
    Option.bind_eq_bind, Option.bind_some, filled, digits, value]
  by_cases long : longestInteger < (digitsOf n).length <;> simp [long]

/-- Nothing that begins with a bracket is an integer. -/
theorem integer?_of_bracket {text : String} {rest : List Char}
    (begins : text.toList = '[' :: rest) : integer? text = none := by
  have bracketPlain : plainCharacter '[' = '[' := rfl
  have stays : ∃ later, trimmed text = '[' :: later := by
    have first : ¬ Character.isAsciiBlank '[' = true := by decide
    rw [trimmed_eq, begins, List.map_cons, bracketPlain, List.dropWhile_cons_of_neg first]
    rcases List.prefix_cons_iff.mp
      (List.rdropWhile_prefix Character.isAsciiBlank ('[' :: rest.map plainCharacter)) with
      empty | ⟨later, equal, _⟩
    · exact absurd (List.rdropWhile_eq_nil_iff.mp empty '[' List.mem_cons_self) first
    · exact ⟨later, equal⟩
  rcases stays with ⟨later, equal⟩
  have unsigned := splitSign_cons (c := '[') (by decide) (by decide) later
  simp only [integer?, equal, unsigned, withoutUnderscores?_cons (c := '[') (by decide)]
  cases withoutUnderscores? Char.isDigit '[' later <;> rfl

end Numeral

end Stencil
