import Mathlib.Data.List.Basic
import Stencil.Text.Lines
import Stencil.Text.Word

/-!
Runs of characters of one class, blank characters, and the ends of a text. No blank character is a
word character, and trimming takes nothing but blanks away.
-/

namespace Stencil

section Run

variable {inClass : Char → Bool} {run rest : List Char}

theorem takeWhile_run (all : ∀ c ∈ run, inClass c = true) (ends : rest.head?.any inClass = false) :
    (run ++ rest).takeWhile inClass = run := by
  rw [List.takeWhile_append_of_pos all]
  cases rest with
  | nil => rw [List.takeWhile_nil, List.append_nil]
  | cons c rest => rw [List.takeWhile_cons_of_neg (by simpa using ends), List.append_nil]

/-- A character of another class ends a run, whatever comes after it. -/
theorem takeWhile_append_cons {c : Char} (other : inClass c = false) (text rest : List Char) :
    (text ++ c :: rest).takeWhile inClass = text.takeWhile inClass := by
  induction text with
  | nil => simp [other]
  | cons d text induction => simp only [List.cons_append, List.takeWhile_cons, induction]

theorem head?_dropWhile_any (inClass : Char → Bool) (text : List Char) :
    (text.dropWhile inClass).head?.any inClass = false := by
  have stops := List.head?_dropWhile_not inClass text
  cases equal : (text.dropWhile inClass).head? with
  | none => rfl
  | some c => simpa [equal] using stops

theorem drop_length_takeWhile (inClass : Char → Bool) (text : List Char) :
    text.drop (text.takeWhile inClass).length = text.dropWhile inClass :=
  calc
    _ = (text.takeWhile inClass ++ text.dropWhile inClass).drop
        (text.takeWhile inClass).length := by rw [List.takeWhile_append_dropWhile]
    _ = text.dropWhile inClass := List.drop_left

end Run

/-! ## Blank characters -/

theorem CodeRanges.mem_of_covers {ranges : CodeRanges} {code : Nat}
    (covered : ranges.covers code = true) :
    ∃ range ∈ ranges, range.1 ≤ code ∧ code ≤ range.2 := by
  induction ranges with
  | nil => cases covered
  | cons range later induction =>
      rw [covers] at covered
      split at covered
      · cases covered
      · rename_i above
        rcases Bool.or_eq_true_iff.mp covered with within | further
        · exact ⟨range, List.mem_cons_self, Nat.le_of_not_lt above, of_decide_eq_true within⟩
        · rcases induction further with ⟨other, member, bounds⟩
          exact ⟨other, List.mem_cons_of_mem _ member, bounds⟩

theorem Character.isWord_of_isBlank {c : Char} (blank : isBlank c = true) : isWord c = false := by
  have codes : ∀ range ∈ blankRanges, ∀ code ∈ List.range' range.1 (range.2 + 1 - range.1),
      isWord (Char.ofNat code) = false := by
    decide +kernel
  rcases CodeRanges.mem_of_covers blank with ⟨range, member, low, high⟩
  have listed : c.toNat ∈ List.range' range.1 (range.2 + 1 - range.1) := by
    rw [List.mem_range'_1]
    omega
  simpa only [Char.ofNat_toNat] using codes range member c.toNat listed

theorem Character.isBlank_of_isWord {c : Char} (word : isWord c = true) : isBlank c = false := by
  cases blank : isBlank c with
  | false => rfl
  | true =>
      rw [isWord_of_isBlank blank] at word
      cases word

/-! ## Ends of a text -/

theorem trimStart_of_head {text : List Char}
    (start : text.head?.any Character.isBlank = false) : trimStart text = text := by
  cases text with
  | nil => rfl
  | cons c text => simp_all [trimStart]

theorem trimStart_append {blanks : List Char}
    (allBlank : ∀ c ∈ blanks, Character.isBlank c = true) (text : List Char) :
    trimStart (blanks ++ text) = trimStart text :=
  List.dropWhile_append_of_pos allBlank

/-- The end of a text is trimmed as its start would be. -/
theorem trimEnd_eq (text : List Char) : trimEnd text = (trimStart text.reverse).reverse :=
  rfl

theorem trimEnd_of_last {text : List Char}
    (last : text.getLast?.any Character.isBlank = false) : trimEnd text = text := by
  rw [trimEnd_eq, trimStart_of_head (by rwa [List.head?_reverse]), List.reverse_reverse]

theorem trimEnd_append {blanks : List Char}
    (allBlank : ∀ c ∈ blanks, Character.isBlank c = true) (text : List Char) :
    trimEnd (text ++ blanks) = trimEnd text := by
  rw [trimEnd_eq, List.reverse_append, trimStart_append (by simpa using allBlank), ← trimEnd_eq]

theorem exists_blanks_append_trimStart (text : List Char) :
    ∃ blanks, (∀ c ∈ blanks, Character.isBlank c = true) ∧ text = blanks ++ trimStart text :=
  ⟨text.takeWhile Character.isBlank, fun c member => List.all_eq_true.mp List.all_takeWhile c member,
    List.takeWhile_append_dropWhile.symm⟩

theorem exists_trimEnd_append_blanks (text : List Char) :
    ∃ blanks, (∀ c ∈ blanks, Character.isBlank c = true) ∧ text = trimEnd text ++ blanks := by
  rcases exists_blanks_append_trimStart text.reverse with ⟨blanks, allBlank, whole⟩
  refine ⟨blanks.reverse, by simpa using allBlank, ?_⟩
  rw [trimEnd_eq, ← List.reverse_append, ← whole, List.reverse_reverse]

theorem head?_trimStart (text : List Char) :
    (trimStart text).head?.any Character.isBlank = false :=
  head?_dropWhile_any Character.isBlank text

theorem getLast?_trimEnd (text : List Char) :
    (trimEnd text).getLast?.any Character.isBlank = false := by
  rw [trimEnd_eq, List.getLast?_reverse]
  exact head?_trimStart text.reverse

theorem filter_trimStart (text : List Char) :
    (trimStart text).filter (!Character.isBlank ·) = text.filter (!Character.isBlank ·) := by
  induction text with
  | nil => rfl
  | cons c text induction =>
      cases blank : Character.isBlank c with
      | false => rw [trimStart_of_head (by simpa using blank)]
      | true =>
          rw [← List.singleton_append, trimStart_append (by simpa using blank), induction]
          simp [blank]

/-- Trimming takes only blanks away. -/
theorem filter_trim (text : List Char) :
    (trim text).filter (!Character.isBlank ·) = text.filter (!Character.isBlank ·) := by
  rw [trim, trimEnd_eq, List.filter_reverse, filter_trimStart, ← List.filter_reverse,
    List.reverse_reverse, filter_trimStart]

end Stencil
