import FrameChat.Bytes

/-!
# The ChaCha20 key stream

Twenty rounds over sixteen words turn a key, a nonce and a block number into
sixty-four bytes of key stream.  The same rounds without the final addition
derive a fresh key from the first part of a longer nonce.
-/

namespace FrameChat.Cipher.ChaCha20

/-- The sixteen words that the rounds work on. -/
structure Block where
  (w0 w1 w2 w3 w4 w5 w6 w7 w8 w9 w10 w11 w12 w13 w14 w15 : UInt32)

/-- Rotate a word left. -/
def rotateLeft (word : UInt32) (amount : UInt32) : UInt32 :=
  (word <<< amount) ||| (word >>> (32 - amount))

/-- Mix four words. -/
def quarterRound (a b c d : UInt32) : UInt32 × UInt32 × UInt32 × UInt32 :=
  let a := a + b
  let d := rotateLeft (d ^^^ a) 16
  let c := c + d
  let b := rotateLeft (b ^^^ c) 12
  let a := a + b
  let d := rotateLeft (d ^^^ a) 8
  let c := c + d
  let b := rotateLeft (b ^^^ c) 7
  (a, b, c, d)

/-- A round over the columns and one over the diagonals. -/
def Block.doubleRound (block : Block) : Block :=
  let ⟨w0, w1, w2, w3, w4, w5, w6, w7, w8, w9, w10, w11, w12, w13, w14, w15⟩ := block
  let (w0, w4, w8, w12) := quarterRound w0 w4 w8 w12
  let (w1, w5, w9, w13) := quarterRound w1 w5 w9 w13
  let (w2, w6, w10, w14) := quarterRound w2 w6 w10 w14
  let (w3, w7, w11, w15) := quarterRound w3 w7 w11 w15
  let (w0, w5, w10, w15) := quarterRound w0 w5 w10 w15
  let (w1, w6, w11, w12) := quarterRound w1 w6 w11 w12
  let (w2, w7, w8, w13) := quarterRound w2 w7 w8 w13
  let (w3, w4, w9, w14) := quarterRound w3 w4 w9 w14
  ⟨w0, w1, w2, w3, w4, w5, w6, w7, w8, w9, w10, w11, w12, w13, w14, w15⟩

/-- The words of a block in order. -/
def Block.words (block : Block) : List UInt32 :=
  [block.w0, block.w1, block.w2, block.w3, block.w4, block.w5, block.w6, block.w7,
   block.w8, block.w9, block.w10, block.w11, block.w12, block.w13, block.w14, block.w15]

/-- Twenty rounds. -/
def Block.mixed (block : Block) : Block :=
  Nat.repeat Block.doubleRound 10 block

/-- The little-endian word at a word index of a byte string. -/
def wordAt (bytes : Bytes) (index : Nat) : UInt32 :=
  UInt32.ofNat (Bytes.ofLittleEndian ((bytes.drop (4 * index)).take 4))

/-- The block of constants, a thirty-two byte key and sixteen further bytes. -/
def Block.of (key input : Bytes) : Block :=
  ⟨0x61707865, 0x3320646e, 0x79622d32, 0x6b206574,
    wordAt key 0, wordAt key 1, wordAt key 2, wordAt key 3,
    wordAt key 4, wordAt key 5, wordAt key 6, wordAt key 7,
    wordAt input 0, wordAt input 1, wordAt input 2, wordAt input 3⟩

/-- The little-endian bytes of words. -/
def bytesOf (words : List UInt32) : Bytes :=
  words.flatMap fun word => Bytes.littleEndian 4 word.toNat

/-- Sixty-four bytes of key stream for a twelve-byte nonce. -/
def keyBlock (key nonce : Bytes) (number : Nat) : Bytes :=
  let start := Block.of key (Bytes.littleEndian 4 number ++ nonce)
  bytesOf (List.zipWith (· + ·) start.words start.mixed.words)

/-- The key stream of `count` blocks from block `number` on. -/
def keyStream (key nonce : Bytes) : (count number : Nat) → Bytes
  | 0, _ => []
  | count + 1, number => keyBlock key nonce number ++ keyStream key nonce count (number + 1)

/-- The key derived from a key and the first sixteen bytes of a long nonce. -/
def derivedKey (key input : Bytes) : Bytes :=
  let mixed := (Block.of key input).mixed.words
  bytesOf (mixed.take 4 ++ mixed.drop 12)

theorem length_bytesOf (words : List UInt32) : (bytesOf words).length = 4 * words.length := by
  induction words with
  | nil => rfl
  | cons word rest ih =>
      simp only [bytesOf, List.flatMap_cons, List.length_append, Bytes.length_littleEndian,
        List.length_cons] at ih ⊢
      omega

@[simp]
theorem length_keyBlock (key nonce : Bytes) (number : Nat) :
    (keyBlock key nonce number).length = 64 := by
  simp [keyBlock, length_bytesOf, Block.words]

@[simp]
theorem length_keyStream (key nonce : Bytes) (count number : Nat) :
    (keyStream key nonce count number).length = 64 * count := by
  induction count generalizing number with
  | zero => rfl
  | succ count ih => simp [keyStream, ih]; omega

/-- Combine bytes with a key stream. -/
def combine (bytes stream : Bytes) : Bytes :=
  List.zipWith (· ^^^ ·) bytes stream

@[simp]
theorem length_combine (bytes stream : Bytes) (enough : bytes.length ≤ stream.length) :
    (combine bytes stream).length = bytes.length := by
  simp [combine, Nat.min_eq_left enough]

/-- Combining twice with the same stream gives the bytes back. -/
theorem combine_combine (bytes stream : Bytes) (enough : bytes.length ≤ stream.length) :
    combine (combine bytes stream) stream = bytes := by
  induction bytes generalizing stream with
  | nil => simp [combine]
  | cons byte rest ih =>
      cases stream with
      | nil => simp at enough
      | cons key stream =>
          have tail := ih stream (by simpa using enough)
          have head : (byte ^^^ key) ^^^ key = byte := by
            rw [UInt8.xor_assoc, UInt8.xor_self, UInt8.xor_zero]
          simp only [combine, List.zipWith_cons_cons, head] at tail ⊢
          rw [tail]

end FrameChat.Cipher.ChaCha20
