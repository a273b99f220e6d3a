/-!
# Bytes as text

`decodeLossy` reads bytes as UTF-8. Bytes that belong to no character are replaced by U+FFFD: the
longest start of a well-formed sequence by one, any other byte by one of its own.
-/

namespace ApiModels.Text

/-- The character that replaces bytes which belong to none. -/
def replacement : Char := '\ufffd'

/-- The number of bytes of a sequence with the given first byte, the bits of that byte, and the
range in which the second byte has to lie. -/
def sequenceStart (b : Nat) : Option (Nat × Nat × Nat × Nat) :=
  if 0xC2 ≤ b ∧ b ≤ 0xDF then some (2, b - 0xC0, 0x80, 0xBF)
  else if b = 0xE0 then some (3, 0, 0xA0, 0xBF)
  else if b = 0xED then some (3, 0xD, 0x80, 0x9F)
  else if 0xE1 ≤ b ∧ b ≤ 0xEF then some (3, b - 0xE0, 0x80, 0xBF)
  else if b = 0xF0 then some (4, 0, 0x90, 0xBF)
  else if 0xF1 ≤ b ∧ b ≤ 0xF3 then some (4, b - 0xF0, 0x80, 0xBF)
  else if b = 0xF4 then some (4, 4, 0x80, 0x8F)
  else none

/-- The characters of a text that continues a sequence: `missing` more bytes are needed, `bits` are
those so far, and the next byte has to lie between `least` and `most`. -/
def decodeFrom : Option (Nat × Nat × Nat × Nat) → List UInt8 → List Char
  | none, [] => []
  | some _, [] => [replacement]
  | pending, byte :: bytes =>
    let b := byte.toNat
    let start : List Char :=
      if b < 0x80 then Char.ofNat b :: decodeFrom none bytes
      else match sequenceStart b with
        | some (size, bits, least, most) => decodeFrom (some (size - 1, bits, least, most)) bytes
        | none => replacement :: decodeFrom none bytes
    match pending with
    | none => start
    | some (missing, bits, least, most) =>
      if b < least ∨ most < b then replacement :: start
      else
        let bits := bits * 64 + b % 64
        if missing ≤ 1 then Char.ofNat bits :: decodeFrom none bytes
        else decodeFrom (some (missing - 1, bits, 0x80, 0xBF)) bytes

/-- The text of bytes, with a replacement for what is no character. -/
def decodeLossy (bytes : List UInt8) : String := String.ofList (decodeFrom none bytes)

example : decodeLossy [0x61, 0xC3, 0xA9, 0xFF, 0xE2, 0x82, 0x62] = "aé\ufffd\ufffdb" := by
  decide +kernel

end ApiModels.Text
