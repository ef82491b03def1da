/-!
Texts as bytes in UTF-8. Decoding refuses what is not UTF-8 and says which bytes are at fault:
a byte that begins no character, a sequence cut off by the end, or one broken by a byte that does
not continue it. Surrogates and over-long forms are refused at their second byte.
-/

namespace Stencil.Utf8

abbrev Bytes := List UInt8

def encode (text : String) : Bytes :=
  text.toList.flatMap String.utf8EncodeChar

inductive Reason where
  | invalidStart
  | unexpectedEnd
  | invalidContinuation
deriving DecidableEq, Repr

/-- The fault covers the `count` bytes from `first` at offset `start` on. -/
structure DecodeError where
  start : Nat
  count : Nat
  first : UInt8
  reason : Reason
deriving DecidableEq, Repr

def isContinuation (byte : UInt8) : Bool :=
  0x80 ≤ byte && byte ≤ 0xBF

/-- The number of bytes after the first, and the bounds of the second byte. -/
def shape? (first : UInt8) : Option (Nat × UInt8 × UInt8) :=
  if first < 0xC2 then none
  else if first < 0xE0 then some (1, 0x80, 0xBF)
  else if first == 0xE0 then some (2, 0xA0, 0xBF)
  else if first == 0xED then some (2, 0x80, 0x9F)
  else if first < 0xF0 then some (2, 0x80, 0xBF)
  else if first == 0xF0 then some (3, 0x90, 0xBF)
  else if first < 0xF4 then some (3, 0x80, 0xBF)
  else if first == 0xF4 then some (3, 0x80, 0x8F)
  else none

/-- What one character at the head of the bytes comes to: the character and the number of bytes
after the first, or the reason of a fault and the number of bytes that it covers. -/
def readChar (first : UInt8) (later : Bytes) : Except (Reason × Nat) (Char × Nat) :=
  let payload (byte : UInt8) : Nat := byte.toNat % 64
  if first < 0x80 then .ok (Char.ofNat first.toNat, 0)
  else match shape? first with
  | none => .error (.invalidStart, 1)
  | some (more, low, high) =>
      match more, later with
      | _, [] => .error (.unexpectedEnd, 1)
      | 1, second :: _ =>
          if low ≤ second && second ≤ high then
            .ok (Char.ofNat (first.toNat % 32 * 64 + payload second), 1)
          else .error (.invalidContinuation, 1)
      | 2, second :: later =>
          if !(low ≤ second && second ≤ high) then .error (.invalidContinuation, 1)
          else match later with
          | [] => .error (.unexpectedEnd, 2)
          | third :: _ =>
              if isContinuation third then
                .ok (Char.ofNat
                  ((first.toNat % 16 * 64 + payload second) * 64 + payload third), 2)
              else .error (.invalidContinuation, 2)
      | _, second :: later =>
          if !(low ≤ second && second ≤ high) then .error (.invalidContinuation, 1)
          else match later with
          | [] => .error (.unexpectedEnd, 2)
          | third :: later =>
              if !isContinuation third then .error (.invalidContinuation, 2)
              else match later with
              | [] => .error (.unexpectedEnd, 3)
              | fourth :: _ =>
                  if isContinuation fourth then
                    .ok (Char.ofNat
                      (((first.toNat % 8 * 64 + payload second) * 64 + payload third) * 64 +
                        payload fourth), 3)
                  else .error (.invalidContinuation, 3)

/-- Decodes from offset `start` on; the next `skip` bytes belong to a character already read. -/
def decodeFrom (start skip : Nat) : Bytes → Except DecodeError (List Char)
  | [] => .ok []
  | byte :: later =>
      match skip with
      | skip + 1 => decodeFrom (start + 1) skip later
      | 0 =>
          match readChar byte later with
          | .error (reason, count) => .error ⟨start, count, byte, reason⟩
          | .ok (c, more) => (decodeFrom (start + 1) more later).map (c :: ·)

def decode (bytes : Bytes) : Except DecodeError String :=
  (decodeFrom 0 0 bytes).map .ofList

example : (decode (encode "aé日😀")).toOption = some "aé日😀" := by decide +kernel

example : decodeFrom 0 0 [0x61, 0xE2, 0x28] = .error ⟨1, 1, 0xE2, .invalidContinuation⟩ := rfl

example : decodeFrom 0 0 [0xED, 0xA0, 0x80] = .error ⟨0, 1, 0xED, .invalidContinuation⟩ := rfl

example : decodeFrom 0 0 [0x61, 0xF0, 0x9F] = .error ⟨1, 2, 0xF0, .unexpectedEnd⟩ := rfl

end Stencil.Utf8
