import FrameChat.Bytes

/-!
# Random bytes

Keys, nonces and counters are drawn from a generator of 64-bit numbers.  Each
number is written lowest byte first, and what is not asked for of the last one
is thrown away.
-/

namespace FrameChat

/-- A generator that steps by a constant and mixes its state. -/
structure Entropy where
  state : UInt64
  deriving DecidableEq, Repr

namespace Entropy

/-- Spread a state over all bits of a number. -/
def mix (state : UInt64) : UInt64 :=
  let z := (state ^^^ (state >>> 30)) * 0xBF58476D1CE4E5B9
  let z := (z ^^^ (z >>> 27)) * 0x94D049BB133111EB
  z ^^^ (z >>> 31)

/-- Draw a number. -/
def draw (entropy : Entropy) : UInt64 × Entropy :=
  let state := entropy.state + 0x9E3779B97F4A7C15
  (mix state, ⟨state⟩)

/-- Draw numbers until there are enough bytes. -/
def bytes : (count : Nat) → Entropy → Bytes × Entropy
  | 0, entropy => ([], entropy)
  | count + 1, entropy =>
      let (number, entropy) := entropy.draw
      let (rest, entropy) := bytes (count + 1 - 8) entropy
      ((Bytes.littleEndian 8 number.toNat).take (count + 1) ++ rest, entropy)
termination_by count => count

end Entropy

end FrameChat
