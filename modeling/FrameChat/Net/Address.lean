import FrameChat.Text.Decimal
import FrameChat.Text.Hex

/-!
# Internet addresses

A viewer is told apart by the address it connects from.  Addresses are read
strictly and written in their canonical form: four decimal octets, or eight
hexadecimal groups with the first longest run of zero groups left out.
-/

namespace FrameChat.Net

/-- An IPv4 or IPv6 address. -/
inductive Address where
  | v4 (a b c d : UInt8)
  | v6 (groups : Vector UInt16 8)
  deriving DecidableEq, Repr

namespace Address

instance : Inhabited Address := ⟨.v4 0 0 0 0⟩

/-- An octet: one to three digits, no leading zero, below 256. -/
def octet? (text : String) : Option UInt8 :=
  let chars := text.toList
  if chars.isEmpty || 3 < chars.length || !chars.all Char.isDigit then none
  else if 1 < chars.length && chars.head? = some '0' then none
  else
    let value := chars.foldl (fun value char => 10 * value + (char.toNat - '0'.toNat)) 0
    if value < 256 then some (UInt8.ofNat value) else none

/-- Four octets with dots between them. -/
def octets? (text : String) : Option (UInt8 × UInt8 × UInt8 × UInt8) :=
  match text.splitOn "." with
  | [a, b, c, d] => do return (← octet? a, ← octet? b, ← octet? c, ← octet? d)
  | _ => none

/-- A group: one to four hexadecimal digits. -/
def group? (text : String) : Option UInt16 :=
  let chars := text.toList
  if chars.isEmpty || 4 < chars.length then none
  else
    (chars.mapM Text.Hex.value?).map fun digits =>
      UInt16.ofNat (digits.foldl (fun value digit => 16 * value + digit) 0)

/-- Groups with colons between them; the last part may be four octets if `tail` allows it. -/
def groups? (tail : Bool) : List String → Option (List UInt16)
  | [] => some []
  | [last] =>
      if last.toList.contains '.' then
        if tail then do
          let (a, b, c, d) ← octets? last
          return [a.toUInt16 * 256 + b.toUInt16, c.toUInt16 * 256 + d.toUInt16]
        else none
      else (group? last).map ([·])
  | part :: rest => do
      let group ← group? part
      let groups ← groups? tail rest
      return group :: groups

/-- The parts of a side of `::`; an empty side has none. -/
def parts (side : String) : List String :=
  if side.isEmpty then [] else side.splitOn ":"

/-- Eight groups, written out or with one run of zero groups left out. -/
def v6? (text : String) : Option Address :=
  let sized (groups : List UInt16) : Option Address :=
    if size : groups.toArray.size = 8 then some (.v6 ⟨groups.toArray, size⟩) else none
  match text.splitOn "::" with
  | [whole] => do
      let groups ← groups? true (parts whole)
      sized groups
  | [left, right] => do
      let before ← groups? false (parts left)
      let after ← groups? true (parts right)
      let missing := 8 - (before.length + after.length)
      if missing = 0 then none
      else sized (before ++ List.replicate missing 0 ++ after)
  | _ => none

/-- Read an address. -/
def parse? (text : String) : Option Address :=
  match octets? text with
  | some (a, b, c, d) => some (.v4 a b c d)
  | none => v6? text

/-- Length of the run of zeros at the front. -/
def zeroRun (groups : List UInt16) : Nat :=
  (groups.takeWhile (· == 0)).length

/-- Start and length of the first longest run of at least two zero groups. -/
def longestZeroRun (groups : List UInt16) : Option (Nat × Nat) :=
  (List.range groups.length).foldl
    (fun best start =>
      let length := zeroRun (groups.drop start)
      match best with
      | none => if 2 ≤ length then some (start, length) else none
      | some (_, longest) => if longest < length then some (start, length) else best)
    none

/-- Groups with colons between them, in digits without leading zeros. -/
def joined (groups : List UInt16) : String :=
  ":".intercalate (groups.map fun group => Text.Hex.ofNat group.toNat)

/-- Whether every machine has the address: as its own among itself, or for all that it has. -/
def isEverywhere : Address → Bool
  | .v4 a b c d => a = 127 || (a = 0 && b = 0 && c = 0 && d = 0)
  | .v6 groups =>
      groups.toList = [0, 0, 0, 0, 0, 0, 0, 0] || groups.toList = [0, 0, 0, 0, 0, 0, 0, 1]

/-- The canonical text of an address. -/
def text : Address → String
  | .v4 a b c d => s!"{a.toNat}.{b.toNat}.{c.toNat}.{d.toNat}"
  | .v6 groups =>
      match groups.toList with
      | [0, 0, 0, 0, 0, 0xFFFF, high, low] =>
          s!"::ffff:{high.toNat / 256}.{high.toNat % 256}.{low.toNat / 256}.{low.toNat % 256}"
      | groups =>
          match longestZeroRun groups with
          | none => joined groups
          | some (start, length) =>
              joined (groups.take start) ++ "::" ++ joined (groups.drop (start + length))

end Address

/-- What stands between brackets, or the whole text if it does not stand between them. -/
def withoutBrackets (host : String) : String :=
  let chars := host.toList
  if chars.head? = some '[' && chars.getLast? = some ']' then
    String.ofList (chars.drop 1).dropLast
  else host

/-- Split at the last colon. -/
def splitLastColon (text : String) : Option (String × String) :=
  match text.splitOn ":" |>.reverse with
  | [] | [_] => none
  | port :: host => some (":".intercalate host.reverse, port)

/-- The address in a peer's `address:port` or `[address]:port`. -/
def peerAddress? (text : String) : Option Address := do
  let (host, _) ← splitLastColon text
  Address.parse? (withoutBrackets host)

end FrameChat.Net
