import FrameChat.Bytes

/-!
# Hexadecimal text

Bytes are written as two lower-case digits each.  Reading takes digits of
either case and refuses an odd number of them.
-/

namespace FrameChat.Text.Hex

/-- The digit for a value below sixteen. -/
def digit (value : Nat) : Char :=
  Nat.digitChar value

/-- The value of a hexadecimal digit of either case. -/
def value? (char : Char) : Option Nat :=
  if '0' ≤ char ∧ char ≤ '9' then some (char.toNat - '0'.toNat)
  else if 'a' ≤ char ∧ char ≤ 'f' then some (char.toNat - 'a'.toNat + 10)
  else if 'A' ≤ char ∧ char ≤ 'F' then some (char.toNat - 'A'.toNat + 10)
  else none

/-- Two lower-case digits for each byte. -/
def encodeChars : Bytes → List Char
  | [] => []
  | byte :: rest => digit (byte.toNat / 16) :: digit (byte.toNat % 16) :: encodeChars rest

/-- The bytes that pairs of digits stand for. -/
def decodeChars : List Char → Option Bytes
  | [] => some []
  | [_] => none
  | high :: low :: rest => do
      let high ← value? high
      let low ← value? low
      let bytes ← decodeChars rest
      return UInt8.ofNat (16 * high + low) :: bytes

/-- Two lower-case digits for each byte. -/
def encode (bytes : Bytes) : String :=
  String.ofList (encodeChars bytes)

/-- The bytes that a text of digit pairs stands for. -/
def decode? (text : String) : Option Bytes :=
  decodeChars text.toList

/-- A number in lower-case hexadecimal digits without leading zeros. -/
def ofNat (number : Nat) : String :=
  String.ofList (Nat.toDigits 16 number)

theorem length_encodeChars (bytes : Bytes) :
    (encodeChars bytes).length = 2 * bytes.length := by
  induction bytes with
  | nil => rfl
  | cons byte rest ih => simp [encodeChars, ih]; omega

private theorem value?_digit : ∀ value < 16, value? (digit value) = some value := by
  decide

/-- Reading gives back what was written. -/
theorem decodeChars_encodeChars (bytes : Bytes) :
    decodeChars (encodeChars bytes) = some bytes := by
  induction bytes with
  | nil => rfl
  | cons byte rest ih =>
      have bound := byte.toNat_lt
      rw [encodeChars, decodeChars,
        value?_digit _ (by omega), value?_digit _ (by omega), ih]
      have whole : 16 * (byte.toNat / 16) + byte.toNat % 16 = byte.toNat := by omega
      show some (UInt8.ofNat (16 * (byte.toNat / 16) + byte.toNat % 16) :: rest) = _
      rw [whole, UInt8.ofNat_toNat]

end FrameChat.Text.Hex
