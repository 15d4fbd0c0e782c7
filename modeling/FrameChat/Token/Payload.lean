import FrameChat.Cipher.Sha256

/-!
# What a token says

A token authorises one submission.  Under its seal it carries a condensed form
of whom it was issued to, the second it was issued in, and a serial number.
-/

namespace FrameChat.Token

/-- The first four bytes of the digest of a binding. -/
def bindingHash (binding : String) : Bytes :=
  (Cipher.Sha256.digest (Bytes.ofText binding)).take 4

@[simp]
theorem length_bindingHash (binding : String) : (bindingHash binding).length = 4 := by
  simp [bindingHash]

/-- The content of a token. -/
structure Payload where
  /-- condensed binding, four bytes -/
  binding : Bytes
  /-- the second of issue, cut to 32 bits -/
  issuedAt : UInt32
  /-- serial number of the token, counted modulo `2 ^ 32` -/
  serial : UInt32
  deriving DecidableEq, Repr

namespace Payload

/-- Bytes of a payload. -/
def byteLength : Nat := 12

/-- The twelve bytes of a payload. -/
def bytes (payload : Payload) : Bytes :=
  payload.binding ++ Bytes.bigEndian 4 payload.issuedAt.toNat ++
    Bytes.bigEndian 4 payload.serial.toNat

/-- Read a payload back. -/
def ofBytes? (bytes : Bytes) : Option Payload :=
  if bytes.length = byteLength then
    some ⟨bytes.take 4, UInt32.ofNat (Bytes.ofBigEndian ((bytes.drop 4).take 4)),
      UInt32.ofNat (Bytes.ofBigEndian (bytes.drop 8))⟩
  else none

/-- A payload whose binding has four bytes is read back as it was written. -/
theorem ofBytes?_bytes {payload : Payload} (four : payload.binding.length = 4) :
    ofBytes? payload.bytes = some payload := by
  have issued := Bytes.length_bigEndian 4 payload.issuedAt.toNat
  have size : payload.bytes.length = byteLength := by
    simp [bytes, byteLength, four]
  have first : payload.bytes.take 4 = payload.binding := by
    rw [bytes, List.append_assoc, ← four, List.take_left]
  have later : payload.bytes.drop 4 =
      Bytes.bigEndian 4 payload.issuedAt.toNat ++ Bytes.bigEndian 4 payload.serial.toNat := by
    rw [bytes, List.append_assoc, ← four, List.drop_left]
  have last : payload.bytes.drop 8 = Bytes.bigEndian 4 payload.serial.toNat := by
    rw [show (8 : Nat) = 4 + 4 from rfl, ← List.drop_drop, later]
    exact List.drop_left' issued
  have middle : (payload.bytes.drop 4).take 4 = Bytes.bigEndian 4 payload.issuedAt.toNat := by
    rw [later]
    exact List.take_left' issued
  have issuedBound := payload.issuedAt.toNat_lt
  have serialBound := payload.serial.toNat_lt
  rw [ofBytes?, if_pos size, first, middle, last, Bytes.ofBigEndian_bigEndian,
    Bytes.ofBigEndian_bigEndian, Nat.mod_eq_of_lt issuedBound, Nat.mod_eq_of_lt serialBound]
  simp

end Payload

end FrameChat.Token
