import FrameChat.Cipher.ChaCha20
import FrameChat.Cipher.Poly1305

/-!
# Sealing with XChaCha20-Poly1305

A sealed text is the combination of the plain text with a key stream, followed
by a tag that only the holder of the key can make.  `decrypt?_encrypt` says that
decryption undoes encryption.
-/

namespace FrameChat.Cipher.Seal

/-- Bytes of a key. -/
def keyLength : Nat := 32

/-- Bytes of a nonce. -/
def nonceLength : Nat := 24

/-- Bytes of a tag. -/
def tagLength : Nat := 16

/-- The key and the short nonce that a long nonce stands for. -/
def inner (key nonce : Bytes) : Bytes × Bytes :=
  (ChaCha20.derivedKey key (nonce.take 16), List.replicate 4 0 ++ nonce.drop 16)

/-- Key stream for a text, starting after the block that keys the tag. -/
def stream (key nonce : Bytes) (length : Nat) : Bytes :=
  let (key, nonce) := inner key nonce
  ChaCha20.keyStream key nonce (length / 64 + 1) 1

/-- The tag of combined bytes: they are filled to a multiple of sixteen and their length follows. -/
def tag (key nonce combined : Bytes) : Bytes :=
  let (key, nonce) := inner key nonce
  let fill := List.replicate ((16 - combined.length % 16) % 16) 0
  Poly1305.tag ((ChaCha20.keyBlock key nonce 0).take 32)
    (combined ++ fill ++ Bytes.littleEndian 8 0 ++ Bytes.littleEndian 8 combined.length)

/-- The sealed form of a text. -/
def encrypt (key nonce text : Bytes) : Bytes :=
  let combined := ChaCha20.combine text (stream key nonce text.length)
  combined ++ tag key nonce combined

/-- The text of a sealed form; `none` unless its tag is right. -/
def decrypt? (key nonce sealedText : Bytes) : Option Bytes :=
  if sealedText.length < tagLength then none
  else
    let combined := sealedText.take (sealedText.length - tagLength)
    if sealedText.drop (sealedText.length - tagLength) = tag key nonce combined then
      some (ChaCha20.combine combined (stream key nonce combined.length))
    else none

@[simp]
theorem length_tag (key nonce combined : Bytes) : (tag key nonce combined).length = 16 := by
  simp [tag]

theorem length_stream (key nonce : Bytes) (length : Nat) :
    length ≤ (stream key nonce length).length := by
  simp only [stream, ChaCha20.length_keyStream]
  omega

@[simp]
theorem length_encrypt (key nonce text : Bytes) :
    (encrypt key nonce text).length = text.length + 16 := by
  simp [encrypt, ChaCha20.length_combine _ _ (length_stream key nonce text.length)]

/-- Decryption undoes encryption. -/
theorem decrypt?_encrypt (key nonce text : Bytes) :
    decrypt? key nonce (encrypt key nonce text) = some text := by
  have enough := length_stream key nonce text.length
  have size := ChaCha20.length_combine _ _ enough
  have whole : encrypt key nonce text =
      ChaCha20.combine text (stream key nonce text.length) ++
        tag key nonce (ChaCha20.combine text (stream key nonce text.length)) := rfl
  have cut : (encrypt key nonce text).length - tagLength =
      (ChaCha20.combine text (stream key nonce text.length)).length := by
    simp [tagLength, size]
  have front := congrArg (List.take (ChaCha20.combine text
    (stream key nonce text.length)).length) whole
  have back := congrArg (List.drop (ChaCha20.combine text
    (stream key nonce text.length)).length) whole
  rw [List.take_left] at front
  rw [List.drop_left] at back
  rw [decrypt?, if_neg (by simp [tagLength])]
  simp only [size] at cut front back
  simp only [cut, front, back, if_true, size, ChaCha20.combine_combine _ _ enough]

end FrameChat.Cipher.Seal
