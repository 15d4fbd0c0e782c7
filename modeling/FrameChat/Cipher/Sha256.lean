import FrameChat.Bytes

/-!
# SHA-256

Names and bindings are condensed by the hash function of FIPS 180-4: the padded
message is folded, block of sixty-four bytes by block, into eight words.
-/

namespace FrameChat.Cipher.Sha256

/-- The round constants. -/
def roundConstants : List UInt32 :=
  [0x428a2f98, 0x71374491, 0xb5c0fbcf, 0xe9b5dba5, 0x3956c25b, 0x59f111f1, 0x923f82a4, 0xab1c5ed5,
   0xd807aa98, 0x12835b01, 0x243185be, 0x550c7dc3, 0x72be5d74, 0x80deb1fe, 0x9bdc06a7, 0xc19bf174,
   0xe49b69c1, 0xefbe4786, 0x0fc19dc6, 0x240ca1cc, 0x2de92c6f, 0x4a7484aa, 0x5cb0a9dc, 0x76f988da,
   0x983e5152, 0xa831c66d, 0xb00327c8, 0xbf597fc7, 0xc6e00bf3, 0xd5a79147, 0x06ca6351, 0x14292967,
   0x27b70a85, 0x2e1b2138, 0x4d2c6dfc, 0x53380d13, 0x650a7354, 0x766a0abb, 0x81c2c92e, 0x92722c85,
   0xa2bfe8a1, 0xa81a664b, 0xc24b8b70, 0xc76c51a3, 0xd192e819, 0xd6990624, 0xf40e3585, 0x106aa070,
   0x19a4c116, 0x1e376c08, 0x2748774c, 0x34b0bcb5, 0x391c0cb3, 0x4ed8aa4a, 0x5b9cca4f, 0x682e6ff3,
   0x748f82ee, 0x78a5636f, 0x84c87814, 0x8cc70208, 0x90befffa, 0xa4506ceb, 0xbef9a3f7, 0xc67178f2]

/-- The eight chaining words. -/
structure Words where
  (a b c d e f g h : UInt32)

/-- The chaining words before the first block. -/
def Words.start : Words :=
  ⟨0x6a09e667, 0xbb67ae85, 0x3c6ef372, 0xa54ff53a, 0x510e527f, 0x9b05688c, 0x1f83d9ab, 0x5be0cd19⟩

/-- Rotate a word right. -/
def rotateRight (word : UInt32) (amount : UInt32) : UInt32 :=
  (word >>> amount) ||| (word <<< (32 - amount))

/-- One round. -/
def Words.round (words : Words) (constant scheduled : UInt32) : Words :=
  let ⟨a, b, c, d, e, f, g, h⟩ := words
  let sigma1 := rotateRight e 6 ^^^ rotateRight e 11 ^^^ rotateRight e 25
  let choice := (e &&& f) ^^^ (~~~e &&& g)
  let first := h + sigma1 + choice + constant + scheduled
  let sigma0 := rotateRight a 2 ^^^ rotateRight a 13 ^^^ rotateRight a 22
  let majority := (a &&& b) ^^^ (a &&& c) ^^^ (b &&& c)
  ⟨first + (sigma0 + majority), a, b, c, d + first, e, f, g⟩

/-- The next word of the message schedule, from the sixteen before it. -/
def nextScheduled (window : List UInt32) : UInt32 :=
  let near := window.getD 14 0
  let far := window.getD 1 0
  let sigma1 := rotateRight near 17 ^^^ rotateRight near 19 ^^^ (near >>> 10)
  let sigma0 := rotateRight far 7 ^^^ rotateRight far 18 ^^^ (far >>> 3)
  sigma1 + window.getD 9 0 + sigma0 + window.getD 0 0

/-- Run the rounds of the given constants over a sliding window of the schedule. -/
def rounds : List UInt32 → List UInt32 → Words → Words
  | [], _, words => words
  | constant :: constants, window, words =>
      rounds constants (window.drop 1 ++ [nextScheduled window])
        (words.round constant (window.getD 0 0))

/-- Cut a byte string into big-endian words. -/
def wordsOf : Bytes → List UInt32
  | a :: b :: c :: d :: rest => UInt32.ofNat (Bytes.ofBigEndian [a, b, c, d]) :: wordsOf rest
  | _ => []

/-- Fold one block into the chaining words. -/
def compress (words : Words) (block : Bytes) : Words :=
  let ⟨a, b, c, d, e, f, g, h⟩ := words
  let mixed := rounds roundConstants (wordsOf block) words
  ⟨a + mixed.a, b + mixed.b, c + mixed.c, d + mixed.d,
    e + mixed.e, f + mixed.f, g + mixed.g, h + mixed.h⟩

/-- Fold whole blocks into the chaining words; `count` bounds their number. -/
def absorb : (count : Nat) → Words → Bytes → Words
  | 0, words, _ => words
  | count + 1, words, bytes =>
      if bytes.length < 64 then words
      else absorb count (compress words (bytes.take 64)) (bytes.drop 64)

/-- A message followed by a one bit, zeros, and its length in bits. -/
def pad (message : Bytes) : Bytes :=
  let zeros := (119 - message.length % 64) % 64
  message ++ 0x80 :: List.replicate zeros 0 ++ Bytes.bigEndian 8 (8 * message.length)

/-- The thirty-two byte digest of a message. -/
def digest (message : Bytes) : Bytes :=
  let padded := pad message
  let words := absorb (padded.length / 64) Words.start padded
  [words.a, words.b, words.c, words.d, words.e, words.f, words.g, words.h].flatMap
    fun word => Bytes.bigEndian 4 word.toNat

@[simp]
theorem length_digest (message : Bytes) : (digest message).length = 32 := by
  simp [digest]

end FrameChat.Cipher.Sha256
