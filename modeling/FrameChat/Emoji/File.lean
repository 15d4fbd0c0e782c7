import FrameChat.Emoji.Table

/-!
# The file of emoji clusters

The file is a sequence of records: a count of code points in one byte, then
each code point in four big-endian bytes.  A record that is not well formed is
reported by the place at which it starts.
-/

namespace FrameChat.Emoji.File

/-- What is wrong with a record. -/
inductive Reason where
  | emptyRecord
  | truncatedRecord
  | invalidCodePoint
  deriving DecidableEq, Repr

/-- How a reason is worded. -/
def Reason.message : Reason → String
  | .emptyRecord => "empty record"
  | .truncatedRecord => "truncated record"
  | .invalidCodePoint => "invalid code point"

/-- The first record that is not well formed. -/
structure Fault where
  offset : Nat
  reason : Reason
  deriving DecidableEq, Repr

/-- How a fault is worded. -/
def Fault.message (fault : Fault) : String :=
  s!"grapheme table corrupt at byte {fault.offset}: {fault.reason.message}"

/-- The code points in groups of four bytes. -/
def codePoints? : Bytes → Option (List Char)
  | a :: b :: c :: d :: rest =>
      let code := Bytes.ofBigEndian [a, b, c, d]
      if code.isValidChar then (codePoints? rest).map (Char.ofNat code :: ·) else none
  | _ => some []

/-- Read records that start `offset` bytes into the file. -/
def readFrom (offset : Nat) : Bytes → Except Fault (List (List Char))
  | [] => .ok []
  | count :: rest =>
      let length := 4 * count.toNat
      if count = 0 then .error ⟨offset, .emptyRecord⟩
      else if rest.length < length then .error ⟨offset, .truncatedRecord⟩
      else
        match codePoints? (rest.take length) with
        | none => .error ⟨offset, .invalidCodePoint⟩
        | some sequence =>
            match readFrom (offset + 1 + length) (rest.drop length) with
            | .error fault => .error fault
            | .ok sequences => .ok (sequence :: sequences)
termination_by bytes => bytes.length
decreasing_by
  simp only [List.length_drop, List.length_cons]
  omega

/-- The clusters of a file. -/
def read (bytes : Bytes) : Except Fault (List (List Char)) :=
  readFrom 0 bytes

/-- The table of the clusters of a file. -/
def table (bytes : Bytes) : Except Fault Table :=
  match read bytes with
  | .error fault => .error fault
  | .ok sequences => .ok (Table.ofSequences sequences)

end FrameChat.Emoji.File
