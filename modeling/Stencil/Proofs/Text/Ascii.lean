import Stencil.Text.Digit
import Stencil.Text.Identifier

/-!
What holds of the characters below 0x80, whose classes can be gone through one by one.
-/

namespace Stencil.Character

def IsAscii (c : Char) : Prop := c.toNat < 0x80

instance (c : Char) : Decidable (IsAscii c) := inferInstanceAs (Decidable (c.toNat < 0x80))

/-- What holds of every ASCII code holds of every ASCII character. -/
theorem IsAscii.of_codes (property : Char → Prop)
    (codes : ∀ code : Fin 0x80, property (Char.ofNat code)) {c : Char} (ascii : IsAscii c) :
    property c := by
  have held := codes ⟨c.toNat, ascii⟩
  rwa [Char.ofNat_toNat] at held

theorem mayContinueIdentifier_of_isWord {c : Char} (ascii : IsAscii c) (word : isWord c = true) :
    mayContinueIdentifier c = true :=
  IsAscii.of_codes (fun c => isWord c = true → mayContinueIdentifier c = true)
    (by decide) ascii word

theorem mayStartIdentifier_of_isWord {c : Char} (ascii : IsAscii c) (word : isWord c = true)
    (noDigit : isDigit c = false) : mayStartIdentifier c = true :=
  IsAscii.of_codes
    (fun c => isWord c = true → isDigit c = false → mayStartIdentifier c = true)
    (by decide) ascii word noDigit

end Stencil.Character
