import FrameChat.Bytes

/-!
# The Poly1305 authenticator

A message is read as a polynomial with one coefficient for each sixteen bytes
and evaluated at a secret point modulo `2 ^ 130 - 5`.
-/

namespace FrameChat.Cipher.Poly1305

/-- The prime that the polynomial is evaluated modulo. -/
def modulus : Nat := (1 <<< 130) - 5

/-- Evaluate at `point`, `count` groups at most; each group carries a final one byte. -/
def evaluate (point : Nat) : (count : Nat) → (value : Nat) → Bytes → Nat
  | 0, value, _ => value
  | _ + 1, value, [] => value
  | count + 1, value, bytes@(_ :: _) =>
      let coefficient := Bytes.ofLittleEndian (bytes.take 16 ++ [1])
      evaluate point count ((value + coefficient) * point % modulus) (bytes.drop 16)

/-- The bits of the first half of the key that take part in the secret point. -/
def pointMask : Nat := 0x0ffffffc0ffffffc0ffffffc0fffffff

/-- The sixteen-byte tag of a message under a thirty-two byte key. -/
def tag (key message : Bytes) : Bytes :=
  let point := Bytes.ofLittleEndian (key.take 16) &&& pointMask
  let pad := Bytes.ofLittleEndian ((key.drop 16).take 16)
  Bytes.littleEndian 16 (evaluate point (message.length / 16 + 1) 0 message + pad)

@[simp]
theorem length_tag (key message : Bytes) : (tag key message).length = 16 := by
  simp [tag]

end FrameChat.Cipher.Poly1305
