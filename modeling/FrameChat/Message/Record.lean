import FrameChat.Message
import FrameChat.Message.LengthPrefix

/-!
# Message records

A message is kept as a byte string: its number, the tag of its kind and its
time in eight big-endian bytes each, then author and text, each behind a length
prefix.  Nothing may follow.
-/

namespace FrameChat.Message.Record

/-- Bytes before the author. -/
def headerLength : Nat := 24

/-- The text fields of a record. -/
inductive Field where
  | author
  | text
  deriving DecidableEq, Repr

/-- What a field is called in a report. -/
def Field.name : Field → String
  | .author => "from"
  | .text => "text"

/-- Why a byte string is no record. -/
inductive Fault where
  | tooShort (needed available : Nat)
  | unknownKind (tag : Nat)
  | malformedPrefix
  | invalidText (field : Field)
  | trailing (count : Nat)
  deriving DecidableEq, Repr

/-- How a fault is worded. -/
def Fault.message : Fault → String
  | .tooShort needed available => s!"record too short: needed {needed} bytes, have {available}"
  | .unknownKind tag => s!"unknown message kind: {tag}"
  | .malformedPrefix => "malformed varint length prefix"
  | .invalidText field => s!"invalid utf-8 in {field.name}"
  | .trailing count => s!"{count} trailing bytes after record"

/-- The tag of a kind. -/
def tag : MessageKind → Nat
  | .text => 1
  | .join => 2
  | .leave => 3

/-- The kind with a given tag. -/
def kindOf : Nat → Except Fault MessageKind
  | 1 => .ok .text
  | 2 => .ok .join
  | 3 => .ok .leave
  | other => .error (.unknownKind other)

@[simp]
theorem kindOf_tag (kind : MessageKind) : kindOf (tag kind) = .ok kind := by
  cases kind <;> rfl

/-- A text field: its length and its UTF-8 bytes. -/
def encodeText (text : String) : Bytes :=
  LengthPrefix.encode (Bytes.ofText text).length ++ Bytes.ofText text

/-- The record of a message. -/
def encode (message : Message) : Bytes :=
  Bytes.bigEndian 8 message.id.toNat ++ Bytes.bigEndian 8 (tag message.kind) ++
    Bytes.bigEndian 8 message.time.toUInt64.toNat ++
    encodeText message.author ++ encodeText message.text

/-- Read a text field; the rest of the bytes is returned beside the text. -/
def takeText (field : Field) (bytes : Bytes) : Except Fault (String × Bytes) :=
  match LengthPrefix.read bytes with
  | .error .short => .error (.tooShort (bytes.length + 1) bytes.length)
  | .error .malformed => .error .malformedPrefix
  | .ok (length, body) =>
      if body.length < length then .error (.tooShort length body.length)
      else
        match Bytes.text? (body.take length) with
        | none => .error (.invalidText field)
        | some text => .ok (text, body.drop length)

/-- Read a record.  The header is checked first, then the fields in order. -/
def decode (bytes : Bytes) : Except Fault Message := do
  if bytes.length < headerLength then
    throw (.tooShort headerLength bytes.length)
  let id := UInt64.ofNat (Bytes.ofBigEndian (bytes.take 8))
  let kind ← kindOf (Bytes.ofBigEndian ((bytes.drop 8).take 8))
  let time := (UInt64.ofNat (Bytes.ofBigEndian ((bytes.drop 16).take 8))).toInt64
  let (author, rest) ← takeText .author (bytes.drop headerLength)
  let (text, rest) ← takeText .text rest
  if rest.isEmpty then
    return ⟨id, author, time, kind, text⟩
  else
    throw (.trailing rest.length)

end FrameChat.Message.Record
