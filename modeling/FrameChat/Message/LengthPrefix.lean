import FrameChat.Bytes

/-!
# Length prefixes

A length is written in groups of seven bits, lowest group first; every byte but
the last has its high bit set.  A reader takes at most ten bytes, and of the
tenth only the lowest bit, so that what it reads fits in 64 bits.
-/

namespace FrameChat.Message.LengthPrefix

/-- Bytes that a prefix has at most. -/
def longest : Nat := 10

/-- The shortest prefix of a length. -/
def encode (length : Nat) : Bytes :=
  if length < 128 then [UInt8.ofNat length]
  else UInt8.ofNat (length % 128 + 128) :: encode (length / 128)
termination_by length
decreasing_by omega

/-- Why a prefix cannot be read. -/
inductive Fault where
  /-- the bytes end inside the prefix -/
  | short
  /-- the prefix does not fit in 64 bits -/
  | malformed
  deriving DecidableEq, Repr

/-- Read a prefix of at most `allowed` bytes; the rest of the bytes is returned beside the length. -/
def readWithin (allowed : Nat) : Bytes → Except Fault (Nat × Bytes)
  | [] => .error .short
  | byte :: rest =>
      if allowed = 1 ∧ 1 < byte.toNat then .error .malformed
      else if byte.toNat < 128 then .ok (byte.toNat, rest)
      else
        match readWithin (allowed - 1) rest with
        | .error fault => .error fault
        | .ok (length, rest) => .ok (byte.toNat - 128 + 128 * length, rest)

/-- Read the prefix at the front of `bytes`. -/
def read (bytes : Bytes) : Except Fault (Nat × Bytes) :=
  readWithin longest bytes

end FrameChat.Message.LengthPrefix
