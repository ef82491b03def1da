import Stencil.Text.CodeRanges

/-!
Blank characters: white space in the wide sense, which takes in the four information
separators U+001C to U+001F, the next-line control and the spaces beyond ASCII, but neither the
zero-width space nor the byte order mark.
-/

namespace Stencil.Character

def blankRanges : CodeRanges := [
  (0x9, 0xd), (0x1c, 0x20), (0x85, 0x85), (0xa0, 0xa0), (0x1680, 0x1680), (0x2000, 0x200a),
  (0x2028, 0x2029), (0x202f, 0x202f), (0x205f, 0x205f), (0x3000, 0x3000)]

def isBlank (c : Char) : Bool := blankRanges.covers c.toNat

example : " \t\n\x0b\x0c\r\x1c\x1f\x85\u00a0\u2028\u3000".toList.all isBlank = true := by decide

example : "a_\x00\u200b\ufeff".toList.any isBlank = false := by decide

/-- The blank characters of ASCII proper: space, tab, line feed, vertical tab, form feed and
carriage return. -/
def isAsciiBlank (c : Char) : Bool :=
  c == ' ' || (0x9 ≤ c.toNat && c.toNat ≤ 0xd)

end Stencil.Character
