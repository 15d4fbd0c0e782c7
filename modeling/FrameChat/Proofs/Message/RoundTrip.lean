import FrameChat.Message.Record

/-!
# Reading back what was written

A record begins with three numbers of fixed width, and each of its texts stands
behind the length of its bytes.  A reader therefore takes exactly what the
writer put there and leaves what follows.  The one thing that does not fit is
a text whose length is no 64-bit number; `Message.Fits` rules it out.

The main statement is `decode_encode`: the record of a message that fits is
read as that message.
-/

namespace FrameChat

namespace Bytes

/-- The UTF-8 bytes of a text are the bytes of that text only. -/
@[simp]
theorem text?_ofText (text : String) : text? (ofText text) = some text := by
  have bytes : (⟨(ofText text).toArray⟩ : ByteArray) = text.toByteArray := by
    simp [ofText]
  rw [text?, bytes, String.fromUTF8?, dif_pos text.isValidUTF8]
  rfl

theorem ofBigEndian_bigEndian_of_lt {width value : Nat} (fits : value < Nat.pow 256 width) :
    ofBigEndian (bigEndian width value) = value := by
  rw [ofBigEndian_bigEndian, Nat.mod_eq_of_lt fits]

end Bytes

namespace Message

/-- The author and the text of a message have lengths that are 64-bit numbers. -/
structure Fits (message : Message) : Prop where
  author : (Bytes.ofText message.author).length < UInt64.size
  text : (Bytes.ofText message.text).length < UInt64.size

namespace LengthPrefix

/-- The lengths that a reader of at most `allowed + 1` bytes can read. -/
def within (allowed : Nat) : Nat := 2 * Nat.pow 128 allowed

@[simp]
theorem within_zero : within 0 = 2 := rfl

theorem within_succ (allowed : Nat) : within (allowed + 1) = 128 * within allowed := by
  rw [within, within, show Nat.pow 128 (allowed + 1) = Nat.pow 128 allowed * 128 from rfl]
  omega

/-- A prefix is read back, and what follows it is left. -/
theorem readWithin_encode (allowed length : Nat) (rest : Bytes)
    (fits : length < within allowed) :
    readWithin (allowed + 1) (encode length ++ rest) = .ok (length, rest) := by
  induction allowed generalizing length with
  | zero =>
      have small : length < 2 := by simpa using fits
      have byte : (UInt8.ofNat length).toNat = length := by
        simp only [UInt8.toNat_ofNat']
        omega
      rw [encode, if_pos (by omega)]
      simp only [List.singleton_append, readWithin, byte]
      rw [if_neg (by omega), if_pos (by omega)]
  | succ allowed ih =>
      rw [within_succ] at fits
      rw [encode]
      split
      case isTrue small =>
        have byte : (UInt8.ofNat length).toNat = length := by
          simp only [UInt8.toNat_ofNat']
          omega
        simp only [List.singleton_append, readWithin, byte]
        rw [if_neg (by omega), if_pos small]
      case isFalse large =>
        have byte : (UInt8.ofNat (length % 128 + 128)).toNat = length % 128 + 128 := by
          simp only [UInt8.toNat_ofNat']
          omega
        simp only [List.cons_append, readWithin, byte]
        rw [if_neg (by omega), if_neg (by omega), Nat.add_sub_cancel,
          ih (length / 128) (by omega)]
        have digits : length % 128 + 128 - 128 + 128 * (length / 128) = length := by omega
        simp only [digits]

theorem read_encode {length : Nat} (fits : length < UInt64.size) (rest : Bytes) :
    read (encode length ++ rest) = .ok (length, rest) :=
  readWithin_encode 9 length rest fits

/-- A prefix of a length that a reader cannot read is refused. -/
theorem readWithin_encode_of_le (allowed length : Nat) (rest : Bytes)
    (long : within allowed ≤ length) :
    readWithin (allowed + 1) (encode length ++ rest) = .error .malformed := by
  induction allowed generalizing length with
  | zero =>
      rw [within_zero] at long
      rw [encode]
      split
      case isTrue small =>
        have byte : (UInt8.ofNat length).toNat = length := by
          simp only [UInt8.toNat_ofNat']
          omega
        simp only [List.singleton_append, readWithin, byte]
        rw [if_pos ⟨trivial, long⟩]
      case isFalse large =>
        have byte : (UInt8.ofNat (length % 128 + 128)).toNat = length % 128 + 128 := by
          simp only [UInt8.toNat_ofNat']
          omega
        simp only [List.cons_append, readWithin, byte]
        rw [if_pos ⟨trivial, by omega⟩]
  | succ allowed ih =>
      have two : 2 ≤ within allowed := Nat.le_mul_of_pos_right 2 (Nat.pow_pos (by decide))
      rw [within_succ] at long
      rw [encode, if_neg (by omega)]
      have byte : (UInt8.ofNat (length % 128 + 128)).toNat = length % 128 + 128 := by
        simp only [UInt8.toNat_ofNat']
        omega
      simp only [List.cons_append, readWithin, byte]
      rw [if_neg (by omega), if_neg (by omega), Nat.add_sub_cancel, ih (length / 128) (by omega)]

end LengthPrefix

namespace Record

/-- A text field is read back, and what follows it is left. -/
theorem takeText_encodeText (field : Field) {text : String}
    (fits : (Bytes.ofText text).length < UInt64.size) (rest : Bytes) :
    takeText field (encodeText text ++ rest) = .ok (text, rest) := by
  simp [takeText, encodeText, LengthPrefix.read_encode fits]

theorem tag_lt (kind : MessageKind) : tag kind < Nat.pow 256 8 := by
  cases kind <;> decide

/-- The header of a record: number, tag and time. -/
def header (message : Message) : Bytes :=
  Bytes.bigEndian 8 message.id.toNat ++ (Bytes.bigEndian 8 (tag message.kind) ++
    Bytes.bigEndian 8 message.time.toUInt64.toNat)

@[simp]
theorem length_header (message : Message) : (header message).length = headerLength := by
  simp [header, headerLength]

theorem encode_eq (message : Message) :
    encode message =
      header message ++ (encodeText message.author ++ encodeText message.text) := by
  simp [encode, header]

theorem read_header (message : Message) (rest : Bytes) :
    UInt64.ofNat (Bytes.ofBigEndian ((header message ++ rest).take 8)) = message.id ∧
      kindOf (Bytes.ofBigEndian (((header message ++ rest).drop 8).take 8)) = .ok message.kind ∧
      (UInt64.ofNat (Bytes.ofBigEndian (((header message ++ rest).drop 16).take 8))).toInt64 =
        message.time := by
  have id : (header message ++ rest).take 8 = Bytes.bigEndian 8 message.id.toNat := by
    simp [header]
  have kind : ((header message ++ rest).drop 8).take 8 = Bytes.bigEndian 8 (tag message.kind) := by
    simp [header]
  have time : ((header message ++ rest).drop 16).take 8 =
      Bytes.bigEndian 8 message.time.toUInt64.toNat := by
    simp [header, List.drop_append, List.take_append]
  refine ⟨?_, ?_, ?_⟩
  · rw [id, Bytes.ofBigEndian_bigEndian_of_lt message.id.toNat_lt, UInt64.ofNat_toNat]
  · rw [kind, Bytes.ofBigEndian_bigEndian_of_lt (tag_lt _), kindOf_tag]
  · rw [time, Bytes.ofBigEndian_bigEndian_of_lt message.time.toUInt64.toNat_lt,
      UInt64.ofNat_toNat]
    rfl

/-- The record of a message that fits is read as that message. -/
theorem decode_encode {message : Message} (fits : message.Fits) :
    decode (encode message) = .ok message := by
  rw [encode_eq, decode]
  rcases read_header message (encodeText message.author ++ encodeText message.text) with
    ⟨id, kind, time⟩
  have complete : ¬ (header message ++
      (encodeText message.author ++ encodeText message.text)).length < headerLength := by
    simp
  have texts : (header message ++
      (encodeText message.author ++ encodeText message.text)).drop headerLength =
        encodeText message.author ++ encodeText message.text :=
    List.drop_left' (length_header message)
  have author := takeText_encodeText .author fits.author (encodeText message.text)
  have text := takeText_encodeText .text fits.text []
  rw [List.append_nil] at text
  rw [if_neg complete, id, kind, time, texts]
  simp only [author, text, List.isEmpty_nil, if_true, bind, Except.bind, pure,
    Except.pure]

/-- A text field is read as its text, or it is too long to be read. -/
theorem eq_of_takeText_encodeText {field : Field} {text : String} {rest : Bytes}
    {read : String × Bytes} (taken : takeText field (encodeText text ++ rest) = .ok read) :
    (Bytes.ofText text).length < UInt64.size ∧ read = (text, rest) := by
  by_cases fits : (Bytes.ofText text).length < UInt64.size
  · rw [takeText_encodeText field fits] at taken
    exact ⟨fits, (Except.ok.inj taken).symm⟩
  · have refused := LengthPrefix.readWithin_encode_of_le 9 _ (Bytes.ofText text ++ rest)
      (Nat.le_of_not_lt fits)
    rw [takeText, encodeText, List.append_assoc, LengthPrefix.read, LengthPrefix.longest, refused]
      at taken
    cases taken

/-- The record of a message is read as that message, or the message is too long to be read. -/
theorem decode_encode_eq_ok_iff {message other : Message} :
    decode (encode message) = .ok other ↔ message.Fits ∧ other = message := by
  constructor
  · intro read
    have fits : message.Fits := by
      rw [encode_eq, decode] at read
      rcases read_header message (encodeText message.author ++ encodeText message.text) with
        ⟨-, kind, -⟩
      have texts : (header message ++
          (encodeText message.author ++ encodeText message.text)).drop headerLength =
            encodeText message.author ++ encodeText message.text :=
        List.drop_left' (length_header message)
      rw [if_neg (by simp), kind, texts] at read
      simp only [bind, Except.bind, pure, Except.pure] at read
      cases author : takeText .author (encodeText message.author ++ encodeText message.text) with
      | error fault => simp [author] at read
      | ok first =>
          rcases eq_of_takeText_encodeText author with ⟨authorFits, rfl⟩
          simp only [author] at read
          cases text : takeText .text (encodeText message.text) with
          | error fault => simp [text] at read
          | ok second =>
              rw [← List.append_nil (encodeText message.text)] at text
              exact ⟨authorFits, (eq_of_takeText_encodeText text).1⟩
    exact ⟨fits, Except.ok.inj (read.symm.trans (decode_encode fits))⟩
  · rintro ⟨fits, rfl⟩
    exact decode_encode fits

end Record

end Message

end FrameChat
