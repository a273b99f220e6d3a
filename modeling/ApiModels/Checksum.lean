import ApiModels.Text.Quoted

/-!
# Checksums

A checksum identifies the contents of an artifact: it is the SHA-256 digest of the bytes, written
with 64 hexadecimal digits. The message is padded to whole blocks of 64 bytes (`padded`); each
block gives 16 words, which `schedule` extends to 64, and 64 rounds mix them into a state of eight
words (`mixBlock`).
-/

namespace ApiModels

/-- The identity of an artifact. -/
structure Checksum where
  /-- The digest in hexadecimal digits. -/
  hex : String
  deriving DecidableEq, Repr

namespace Checksum

/-- The words that start the state: the fractions of the square roots of the first eight primes. -/
def initialState : List UInt32 :=
  [0x6a09e667, 0xbb67ae85, 0x3c6ef372, 0xa54ff53a, 0x510e527f, 0x9b05688c, 0x1f83d9ab, 0x5be0cd19]

/-- The words of the rounds: the fractions of the cube roots of the first 64 primes. -/
def roundWords : List UInt32 :=
  [0x428a2f98, 0x71374491, 0xb5c0fbcf, 0xe9b5dba5, 0x3956c25b, 0x59f111f1, 0x923f82a4, 0xab1c5ed5,
   0xd807aa98, 0x12835b01, 0x243185be, 0x550c7dc3, 0x72be5d74, 0x80deb1fe, 0x9bdc06a7, 0xc19bf174,
   0xe49b69c1, 0xefbe4786, 0x0fc19dc6, 0x240ca1cc, 0x2de92c6f, 0x4a7484aa, 0x5cb0a9dc, 0x76f988da,
   0x983e5152, 0xa831c66d, 0xb00327c8, 0xbf597fc7, 0xc6e00bf3, 0xd5a79147, 0x06ca6351, 0x14292967,
   0x27b70a85, 0x2e1b2138, 0x4d2c6dfc, 0x53380d13, 0x650a7354, 0x766a0abb, 0x81c2c92e, 0x92722c85,
   0xa2bfe8a1, 0xa81a664b, 0xc24b8b70, 0xc76c51a3, 0xd192e819, 0xd6990624, 0xf40e3585, 0x106aa070,
   0x19a4c116, 0x1e376c08, 0x2748774c, 0x34b0bcb5, 0x391c0cb3, 0x4ed8aa4a, 0x5b9cca4f, 0x682e6ff3,
   0x748f82ee, 0x78a5636f, 0x84c87814, 0x8cc70208, 0x90befffa, 0xa4506ceb, 0xbef9a3f7, 0xc67178f2]

/-- Rotation to the right. -/
def rotate (n : UInt32) (w : UInt32) : UInt32 := (w >>> n) ||| (w <<< (32 - n))

/-- The eight bytes of a number, the most significant first. -/
def bigEndian64 (n : Nat) : List UInt8 :=
  [56, 48, 40, 32, 24, 16, 8, 0].map fun shift => UInt8.ofNat (n >>> shift)

/-- A message with a one bit, zeros up to a whole number of blocks, and its length in bits. -/
def padded (bytes : List UInt8) : List UInt8 :=
  let zeros := (119 - bytes.length % 64) % 64
  bytes ++ 0x80 :: (List.replicate zeros 0 ++ bigEndian64 (8 * bytes.length))

/-- Bytes by four as words, the most significant byte first. -/
def words : List UInt8 → List UInt32
  | a :: b :: c :: d :: rest =>
    ((a.toUInt32 <<< 24) ||| (b.toUInt32 <<< 16) ||| (c.toUInt32 <<< 8) ||| d.toUInt32) ::
      words rest
  | _ => []

/-- Extends the words of a block, of which the last comes first, by `n` more. -/
def schedule : Nat → List UInt32 → List UInt32
  | 0, ws => ws
  | n + 1, ws =>
    let early := ws.getD 14 0
    let late := ws.getD 1 0
    let s0 := rotate 7 early ^^^ rotate 18 early ^^^ (early >>> 3)
    let s1 := rotate 17 late ^^^ rotate 19 late ^^^ (late >>> 10)
    schedule n ((ws.getD 15 0 + s0 + ws.getD 6 0 + s1) :: ws)

/-- One round with the word of the round and a word of the schedule. -/
def mixWord (state : List UInt32) (input : UInt32 × UInt32) : List UInt32 :=
  match state with
  | [a, b, c, d, e, f, g, h] =>
    let s1 := rotate 6 e ^^^ rotate 11 e ^^^ rotate 25 e
    let choice := (e &&& f) ^^^ ((~~~e) &&& g)
    let t1 := h + s1 + choice + input.1 + input.2
    let s0 := rotate 2 a ^^^ rotate 13 a ^^^ rotate 22 a
    let majority := (a &&& b) ^^^ (a &&& c) ^^^ (b &&& c)
    [t1 + s0 + majority, a, b, c, d + t1, e, f, g]
  | _ => state

/-- Mixes a block of 16 words, of which the last comes first, into the state. -/
def mixBlock (state : List UInt32) (block : List UInt32) : List UInt32 :=
  let mixed := (roundWords.zip (schedule 48 block).reverse).foldl mixWord state
  state.zipWith (· + ·) mixed

/-- Takes up one word: the state, and the words of the current block with the last one first. -/
def takeWord (progress : List UInt32 × List UInt32) (w : UInt32) : List UInt32 × List UInt32 :=
  let block := w :: progress.2
  if block.length = 16 then (mixBlock progress.1 block, []) else (progress.1, block)

/-- A word in eight hexadecimal digits. -/
def hexWord (w : UInt32) : List Char :=
  let digits := Text.hexDigits w.toNat
  List.replicate (8 - digits.length) '0' ++ digits

/-- The checksum of bytes. -/
def ofBytes (bytes : List UInt8) : Checksum :=
  let state := ((words (padded bytes)).foldl takeWord (initialState, [])).1
  ⟨String.ofList (state.flatMap hexWord)⟩

/-- The checksum of a text. -/
def ofText (s : String) : Checksum := ofBytes s.toUTF8.toList

/-- The first twelve digits. -/
def short (c : Checksum) : String := String.ofList (c.hex.toList.take 12)

end Checksum

end ApiModels
