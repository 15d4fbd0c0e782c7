import FrameChat.Text.Hex
import FrameChat.Text.Utf8

/-!
# Percent-encoded text

In a web address a byte may stand as `%` and two hexadecimal digits; a percent
sign that is not followed by two digits stands for itself.  In the fields of a
form a plus sign also stands for a space.
-/

namespace FrameChat.Text.Percent

/-- The bytes that percent-encoded bytes stand for. -/
def decode : Bytes → Bytes
  | 0x25 :: high :: low :: rest =>
      match Hex.value? (Char.ofNat high.toNat), Hex.value? (Char.ofNat low.toNat) with
      | some h, some l => UInt8.ofNat (16 * h + l) :: decode rest
      | _, _ => 0x25 :: decode (high :: low :: rest)
  | byte :: rest => byte :: decode rest
  | [] => []
termination_by bytes => bytes.length

/-- The value of a form field: plus is a space, and broken UTF-8 is read leniently. -/
def fieldValue (raw : String) : String :=
  Utf8.lenient (decode ((Bytes.ofText raw).map fun byte => if byte = 0x2B then 0x20 else byte))

/-- The text of a path segment, if its bytes are UTF-8. -/
def segment? (raw : String) : Option String :=
  Bytes.text? (decode (Bytes.ofText raw))

end FrameChat.Text.Percent
