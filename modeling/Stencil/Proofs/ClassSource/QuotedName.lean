import Stencil.Proofs.ClassSource.TypeCheck

/-!
What a quoted name can be relied on for. Every name is quoted to a word that neither begins with a
digit nor is kept by the language or the class, quoting it again changes nothing, and if the name is
of ASCII characters its quoted form is an identifier.
-/

namespace Stencil

namespace Identifier

theorem isTaken_iff {name : List Char} :
    isTaken name = true ↔ String.ofList name ∈ keywords ++ memberNames := by
  rw [isTaken, List.any_eq_true]
  constructor
  · rintro ⟨word, kept, equal⟩
    rwa [← eq_of_beq equal, String.ofList_toList]
  · intro kept
    exact ⟨_, kept, by rw [String.toList_ofList, BEq.rfl]⟩

end Identifier

/-- The promises of quoting, for every name. -/
theorem toIdentifier_isUsable (name : String) :
    toIdentifier name ≠ "" ∧
      (∀ c ∈ (toIdentifier name).toList, Character.isWord c = true) ∧
      (∀ c, (toIdentifier name).toList.head? = some c → Character.isDigit c = false) ∧
      toIdentifier name ∉ Identifier.keywords ∧
      toIdentifier name ∉ Identifier.memberNames ∧
      toIdentifier (toIdentifier name) = toIdentifier name ∧
      ((∀ c ∈ name.toList, Character.IsAscii c) →
        Identifier.IsIdentifier (toIdentifier name).toList) := by
  have fit := Identifier.quote_isFit name.toList
  have quoted : (toIdentifier name).toList = Identifier.quote name.toList := String.toList_ofList
  have free : toIdentifier name ∉ Identifier.keywords ++ Identifier.memberNames := by
    rw [toIdentifier, ← Identifier.isTaken_iff, fit.free]
    exact Bool.false_ne_true
  rw [List.mem_append, not_or] at free
  refine ⟨?_, ?_, ?_, free.1, free.2, toIdentifier_toIdentifier name, ?_⟩
  · rw [ne_eq, ← String.toList_inj, quoted]
    exact fit.nonempty
  · rw [quoted]
    exact fit.words
  · intro c first
    have start := fit.start
    rw [← quoted, first] at start
    exact start
  · intro ascii
    rw [quoted, Identifier.isIdentifier_quote_iff]
    exact isSpellable_of_ascii ascii

theorem toIdentifier_isUsable_numeral :
    (∀ c ∈ "2nd-class".toList, Character.IsAscii c) ∧ toIdentifier "2nd-class" = "_2nd_class" ∧
      Identifier.IsIdentifier "_2nd_class".toList := by
  have ascii : ∀ c ∈ "2nd-class".toList, Character.IsAscii c := by
    have all : ("2nd-class".toList.all fun c => decide (Character.IsAscii c)) = true := by
      decide +kernel
    simpa only [List.all_eq_true, decide_eq_true_eq] using all
  have quoted : toIdentifier "2nd-class" = "_2nd_class" := by decide +kernel
  rcases toIdentifier_isUsable "2nd-class" with ⟨-, -, -, -, -, -, identifier⟩
  exact ⟨ascii, quoted, quoted ▸ identifier ascii⟩

end Stencil
