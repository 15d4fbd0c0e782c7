import FrameChat.Proofs.Message.Delimited

/-!
# Lengths that are spelled in more ways than one

A length is written in as few groups of seven bits as possible.  A reader also takes
groups of zero bits at the end, as long as there are at most ten bytes, so that a length
has several spellings, and so has a record: its two lengths may each be spelled longer
than necessary.  The numbers in its header and its two texts have one spelling each.

* `encode_value_eq_iff`: what is written for a length is its shortest spelling.
* `rewritten_iff_shortest`: a byte string that is read as a message is the record of that
  message exactly if its two lengths are spelled in the shortest way.
* `padded_record_is_read`: a byte string that is read and is not the record of what is read.
-/

namespace FrameChat

namespace Bytes

/-- Each byte string of a width is that of a number. -/
theorem littleEndian_ofLittleEndian (bytes : Bytes) :
    littleEndian bytes.length (ofLittleEndian bytes) = bytes := by
  induction bytes with
  | nil => rfl
  | cons byte rest ih =>
      have bound := byte.toNat_lt
      have low : UInt8.ofNat (byte.toNat + 256 * ofLittleEndian rest) = byte := by
        rw [← UInt8.toNat_inj, UInt8.toNat_ofNat']
        omega
      have high : (byte.toNat + 256 * ofLittleEndian rest) / 256 = ofLittleEndian rest := by
        omega
      rw [List.length_cons, ofLittleEndian, littleEndian, low, high, ih]

theorem bigEndian_ofBigEndian {width : Nat} {bytes : Bytes} (length : bytes.length = width) :
    bigEndian width (ofBigEndian bytes) = bytes := by
  have digits := littleEndian_ofLittleEndian bytes.reverse
  rw [List.length_reverse, length] at digits
  rw [bigEndian, ofBigEndian, digits, List.reverse_reverse]

theorem ofBigEndian_lt {width : Nat} {bytes : Bytes} (length : bytes.length = width) :
    ofBigEndian bytes < Nat.pow 256 width := by
  have fits := ofBigEndian_bigEndian width (ofBigEndian bytes)
  rw [bigEndian_ofBigEndian length] at fits
  rw [fits]
  exact Nat.mod_lt _ (Nat.pow_pos (by decide))

/-- A text has no other bytes than those that are read as it. -/
theorem ofText_of_text? {bytes : Bytes} {text : String} (read : text? bytes = some text) :
    ofText text = bytes := by
  rw [text?, String.fromUTF8?] at read
  split at read
  · obtain rfl := Option.some.inj read
    simp [ofText, String.fromUTF8]
  · cases read

end Bytes

namespace Message

namespace LengthPrefix

/-- The number that groups of seven bits stand for, the lowest group first. -/
def value : Bytes → Nat
  | [] => 0
  | byte :: rest => byte.toNat % 128 + 128 * value rest

/-- The last byte, and no other one, is below 128. -/
inductive Spelling : Bytes → Prop
  | last (byte : UInt8) (low : byte.toNat < 128) : Spelling [byte]
  | more (byte : UInt8) {rest : Bytes} (high : 128 ≤ byte.toNat) (further : Spelling rest) :
      Spelling (byte :: rest)

/-- A spelling of a length in at most `allowed` bytes, of the last of which only one bit is used. -/
structure Spells (allowed : Nat) (bytes : Bytes) (length : Nat) : Prop where
  spelling : Spelling bytes
  bounded : bytes.length ≤ allowed
  narrow : bytes.length = allowed → ∀ last ∈ bytes.getLast?, last.toNat ≤ 1
  value : value bytes = length

/-- The bytes do not end with a group of zero bits, unless it is the only group. -/
def Shortest (bytes : Bytes) : Prop :=
  1 < bytes.length → bytes.getLast? ≠ some 0

namespace Spelling

variable {bytes : Bytes}

theorem ne_nil (spelling : Spelling bytes) : bytes ≠ [] := by
  cases spelling <;> simp

/-- Only groups of zero bits stand for zero, and so does the last group. -/
theorem getLast?_of_value_eq_zero (spelling : Spelling bytes) (zero : value bytes = 0) :
    bytes.getLast? = some 0 := by
  induction spelling with
  | last byte low =>
      have byteZero : byte.toNat = 0 := by
        rw [value, value] at zero
        omega
      rw [List.getLast?_singleton, UInt8.toNat_inj.mp (byteZero.trans UInt8.toNat_zero.symm)]
  | more byte high further ih =>
      rw [value] at zero
      rw [List.getLast?_cons_of_ne_nil further.ne_nil]
      exact ih (by omega)

theorem value_eq_zero_of_length_le_one (spelling : Spelling bytes) (short : bytes.length ≤ 1)
    (last : bytes.getLast? = some 0) : value bytes = 0 := by
  cases spelling with
  | last byte low =>
      rw [List.getLast?_singleton, Option.some.injEq] at last
      subst last
      rfl
  | more byte high further =>
      have nonempty := List.length_pos_iff.mpr further.ne_nil
      rw [List.length_cons] at short
      omega

/-- What is written for the value of a longer spelling. -/
theorem encode_value_more (byte : UInt8) (high : 128 ≤ byte.toNat) (rest : Bytes) :
    encode (value (byte :: rest)) =
      if value rest = 0 then [UInt8.ofNat (byte.toNat - 128)]
      else byte :: encode (value rest) := by
  have bound := byte.toNat_lt
  have low : byte.toNat % 128 = byte.toNat - 128 := by omega
  rw [encode, value, low]
  split
  · rename_i zero
    have none : value rest = 0 := by omega
    rw [if_pos none, none, Nat.mul_zero, Nat.add_zero]
  · rename_i more
    have some : value rest ≠ 0 := by omega
    have first : UInt8.ofNat ((byte.toNat - 128 + 128 * value rest) % 128 + 128) = byte := by
      rw [← UInt8.toNat_inj, UInt8.toNat_ofNat']
      omega
    have others : (byte.toNat - 128 + 128 * value rest) / 128 = value rest := by omega
    rw [if_neg some, first, others]

theorem length_encode_value_le (spelling : Spelling bytes) :
    (encode (value bytes)).length ≤ bytes.length := by
  induction spelling with
  | last byte low =>
      rw [value, value, encode, if_pos (by omega)]
      exact Nat.le_refl _
  | @more byte rest high further ih =>
      rw [encode_value_more byte high rest]
      split
      · exact Nat.le_add_left _ _
      · exact Nat.succ_le_succ ih

/-- What is written for a length is its shortest spelling, and no other one is. -/
theorem encode_value_eq_iff (spelling : Spelling bytes) :
    encode (value bytes) = bytes ↔ Shortest bytes := by
  induction spelling with
  | last byte low =>
      have same : value [byte] = byte.toNat := by
        rw [value, value]
        omega
      rw [same, encode, if_pos low, UInt8.ofNat_toNat]
      simp [Shortest]
  | @more byte rest high further ih =>
      have nonempty := List.length_pos_iff.mpr further.ne_nil
      rw [encode_value_more byte high rest, Shortest, List.length_cons,
        List.getLast?_cons_of_ne_nil further.ne_nil]
      split
      case isTrue zero =>
        have last := further.getLast?_of_value_eq_zero zero
        simp [last, further.ne_nil, nonempty]
      case isFalse nonzero =>
        rw [List.cons.injEq, and_iff_right rfl, ih, Shortest]
        constructor
        · intro shortest _ last
          by_cases long : 1 < rest.length
          · exact shortest long last
          · exact nonzero (further.value_eq_zero_of_length_le_one (by omega) last)
        · intro shortest long
          exact shortest (by omega)

end Spelling

theorem within_pos (allowed : Nat) : 0 < within allowed :=
  Nat.mul_pos (by decide) (Nat.pow_pos (by decide))

/-- Behind the first of several bytes stands a spelling in one byte less. -/
theorem Spells.tail {allowed length : Nat} {byte : UInt8} {rest : Bytes}
    (spells : Spells (allowed + 1) (byte :: rest) length) (further : Spelling rest) :
    ∃ fewer, allowed = fewer + 1 ∧ Spells (fewer + 1) rest (LengthPrefix.value rest) := by
  rcases spells with ⟨-, bounded, narrow, -⟩
  have nonempty := List.length_pos_iff.mpr further.ne_nil
  rw [List.length_cons] at bounded narrow
  rw [List.getLast?_cons_of_ne_nil further.ne_nil] at narrow
  cases allowed with
  | zero => omega
  | succ fewer =>
      exact ⟨fewer, rfl, further, Nat.le_of_succ_le_succ bounded,
        fun full => narrow (congrArg Nat.succ full), rfl⟩

/-- A length that is spelled in few bytes is small. -/
theorem Spells.lt_within {allowed length : Nat} {bytes : Bytes}
    (spells : Spells (allowed + 1) bytes length) : length < within allowed := by
  induction bytes generalizing allowed length with
  | nil => cases spells.spelling
  | cons byte rest ih =>
      obtain rfl := spells.value
      cases spells.spelling with
      | last _ low =>
          rw [LengthPrefix.value, LengthPrefix.value]
          cases allowed with
          | zero =>
              have bit := spells.narrow rfl byte rfl
              rw [within_zero]
              omega
          | succ allowed =>
              have positive := within_pos allowed
              rw [within_succ]
              omega
      | more _ high further =>
          rcases spells.tail further with ⟨fewer, rfl, others⟩
          have smaller := ih others
          rw [LengthPrefix.value, within_succ]
          omega

/-- Every spelling is read as its length, and what follows it is left. -/
theorem readWithin_of_spells {allowed length : Nat} {front : Bytes}
    (spells : Spells (allowed + 1) front length) (rest : Bytes) :
    readWithin (allowed + 1) (front ++ rest) = .ok (length, rest) := by
  induction front generalizing allowed length with
  | nil => cases spells.spelling
  | cons byte tail ih =>
      obtain rfl := spells.value
      cases spells.spelling with
      | last _ low =>
          have fits : ¬(allowed + 1 = 1 ∧ 1 < byte.toNat) := by
            rintro ⟨only, wide⟩
            exact absurd (spells.narrow only.symm byte rfl) (Nat.not_le.mpr wide)
          have same : byte.toNat % 128 + 128 * 0 = byte.toNat := by omega
          rw [List.singleton_append, readWithin, if_neg fits, if_pos low, LengthPrefix.value,
            LengthPrefix.value, same]
      | more _ high further =>
          rcases spells.tail further with ⟨fewer, rfl, others⟩
          have bound := byte.toNat_lt
          have low : byte.toNat % 128 = byte.toNat - 128 := by omega
          rw [List.cons_append, readWithin, if_neg (by omega), if_neg (by omega),
            Nat.add_sub_cancel, ih others, LengthPrefix.value, low]

/-- A length that is read is spelled by the bytes that are read. -/
theorem exists_spells_of_readWithin {allowed length : Nat} {bytes rest : Bytes}
    (read : readWithin (allowed + 1) bytes = .ok (length, rest)) :
    ∃ front, Spells (allowed + 1) front length ∧ bytes = front ++ rest := by
  induction bytes generalizing allowed length with
  | nil => cases read
  | cons byte tail ih =>
      rw [readWithin] at read
      by_cases wide : allowed + 1 = 1 ∧ 1 < byte.toNat
      · rw [if_pos wide] at read
        cases read
      rw [if_neg wide] at read
      by_cases low : byte.toNat < 128
      · rw [if_pos low, Except.ok.injEq, Prod.mk.injEq] at read
        obtain ⟨rfl, rfl⟩ := read
        refine ⟨[byte], ⟨.last byte low, by simp, ?_, ?_⟩, rfl⟩
        · intro only last member
          rw [List.getLast?_singleton, Option.mem_some_iff] at member
          rw [List.length_singleton] at only
          subst member
          omega
        · rw [value, value]
          omega
      · rw [if_neg low] at read
        cases allowed with
        | zero => omega
        | succ allowed =>
            rw [Nat.add_sub_cancel] at read
            split at read
            · cases read
            · rename_i further left reading
              rw [Except.ok.injEq, Prod.mk.injEq] at read
              obtain ⟨rfl, rfl⟩ := read
              rcases ih reading with ⟨front, spells, rfl⟩
              have nonempty := spells.spelling.ne_nil
              refine ⟨byte :: front, ⟨.more byte (by omega) spells.spelling, ?_, ?_, ?_⟩, rfl⟩
              · exact Nat.succ_le_succ spells.bounded
              · rw [List.length_cons, List.getLast?_cons_of_ne_nil nonempty]
                exact fun full => spells.narrow (Nat.succ.inj full)
              · have bound := byte.toNat_lt
                rw [value, spells.value]
                omega

end LengthPrefix

namespace Record

/-- A text field that is read has a spelling of its length in front of its bytes. -/
theorem exists_spells_of_takeText {field : Field} {bytes rest : Bytes} {text : String}
    (taken : takeText field bytes = .ok (text, rest)) :
    ∃ front, LengthPrefix.Spells LengthPrefix.longest front (Bytes.ofText text).length ∧
      bytes = front ++ Bytes.ofText text ++ rest := by
  rw [takeText] at taken
  split at taken
  · cases taken
  · cases taken
  · rename_i length body read
    rcases LengthPrefix.exists_spells_of_readWithin read with ⟨front, spells, rfl⟩
    by_cases short : body.length < length
    · rw [if_pos short] at taken
      cases taken
    rw [if_neg short] at taken
    split at taken
    · cases taken
    · rename_i value valid
      rw [Except.ok.injEq, Prod.mk.injEq] at taken
      obtain ⟨rfl, rfl⟩ := taken
      have bytes := Bytes.ofText_of_text? valid
      have size : (Bytes.ofText value).length = length := by
        rw [bytes, List.length_take]
        omega
      refine ⟨front, size.symm ▸ spells, ?_⟩
      rw [bytes, List.append_assoc, List.take_append_drop]

/-- A text field is read whatever the spelling of its length, and what follows it is left. -/
theorem takeText_of_spells (field : Field) {front : Bytes} {text : String}
    (spells : LengthPrefix.Spells LengthPrefix.longest front (Bytes.ofText text).length)
    (rest : Bytes) :
    takeText field (front ++ Bytes.ofText text ++ rest) = .ok (text, rest) := by
  have length : LengthPrefix.read (front ++ (Bytes.ofText text ++ rest)) =
      .ok ((Bytes.ofText text).length, Bytes.ofText text ++ rest) :=
    LengthPrefix.readWithin_of_spells spells (Bytes.ofText text ++ rest)
  rw [List.append_assoc]
  simp [takeText, length]

theorem tag_of_kindOf {number : Nat} {kind : MessageKind} (known : kindOf number = .ok kind) :
    tag kind = number := by
  unfold kindOf at known
  split at known <;> cases known <;> rfl

/-- A number in the header is the one that its eight bytes are read as. -/
theorem bigEndian_of_read {bytes : Bytes} (length : bytes.length = 8) :
    Bytes.bigEndian 8 (UInt64.ofNat (Bytes.ofBigEndian bytes)).toNat = bytes := by
  have fits : Bytes.ofBigEndian bytes < 2 ^ 64 := Bytes.ofBigEndian_lt length
  rw [UInt64.toNat_ofNat_of_lt' fits, Bytes.bigEndian_ofBigEndian length]

/-- A whole header is that of the message whose number, kind and time are read from it. -/
theorem header_of_read {bytes : Bytes} (long : headerLength ≤ bytes.length) {message : Message}
    (id : message.id = UInt64.ofNat (Bytes.ofBigEndian (bytes.take 8)))
    (kind : kindOf (Bytes.ofBigEndian ((bytes.drop 8).take 8)) = .ok message.kind)
    (time : message.time =
      (UInt64.ofNat (Bytes.ofBigEndian ((bytes.drop 16).take 8))).toInt64) :
    header message ++ bytes.drop headerLength = bytes := by
  have width (start : Nat) (inside : start + 8 ≤ headerLength) :
      ((bytes.drop start).take 8).length = 8 := by
    rw [List.length_take, List.length_drop]
    omega
  have eight (start : Nat) :
      (bytes.drop start).take 8 ++ bytes.drop (start + 8) = bytes.drop start := by
    rw [← List.drop_drop, List.take_append_drop]
  have idBytes := bigEndian_of_read (width 0 (by decide))
  have kindBytes := Bytes.bigEndian_ofBigEndian (width 8 (by decide))
  have timeBytes := bigEndian_of_read (width 16 (by decide))
  rw [List.drop_zero] at idBytes
  rw [header, id, tag_of_kindOf kind, time, UInt64.toUInt64_toInt64, idBytes, kindBytes, timeBytes,
    List.append_assoc, List.append_assoc, show headerLength = 16 + 8 from rfl, eight 16,
    show (16 : Nat) = 8 + 8 from rfl, eight 8, List.take_append_drop]

/-- The record of a message with its two lengths spelled in given ways. -/
def spelled (message : Message) (authorLength textLength : Bytes) : Bytes :=
  header message ++ (authorLength ++ Bytes.ofText message.author ++
    (textLength ++ Bytes.ofText message.text))

theorem encode_eq_spelled (message : Message) :
    encode message = spelled message
      (LengthPrefix.encode (Bytes.ofText message.author).length)
      (LengthPrefix.encode (Bytes.ofText message.text).length) :=
  encode_eq message

/-- A record is read as its message whatever the spellings of its lengths. -/
theorem decode_spelled {message : Message} {authorLength textLength : Bytes}
    (author : LengthPrefix.Spells LengthPrefix.longest authorLength
      (Bytes.ofText message.author).length)
    (text : LengthPrefix.Spells LengthPrefix.longest textLength
      (Bytes.ofText message.text).length) :
    decode (spelled message authorLength textLength) = .ok message := by
  have last := takeText_of_spells .text text []
  rw [List.append_nil] at last
  rw [spelled, decode_header_append, takeText_of_spells .author author]
  simp only [Except.bind, last]
  rfl

/-- Only the two lengths of a byte string that is read as a message are not those of its record. -/
theorem exists_spells_of_decode {bytes : Bytes} {message : Message}
    (read : decode bytes = .ok message) :
    ∃ authorLength textLength,
      LengthPrefix.Spells LengthPrefix.longest authorLength
        (Bytes.ofText message.author).length ∧
      LengthPrefix.Spells LengthPrefix.longest textLength (Bytes.ofText message.text).length ∧
      bytes = spelled message authorLength textLength := by
  rw [decode] at read
  by_cases short : bytes.length < headerLength
  · rw [if_pos short] at read
    cases read
  rw [if_neg short] at read
  simp only [bind, Except.bind] at read
  split at read
  case h_1 => cases read
  case h_2 kind known =>
    split at read
    case h_1 => cases read
    case h_2 author authorTaken =>
      split at read
      case h_1 => cases read
      case h_2 text textTaken =>
        split at read
        case isFalse => cases read
        case isTrue finished =>
          obtain rfl := Except.ok.inj read
          rcases exists_spells_of_takeText authorTaken with ⟨authorLength, authorSpells, behind⟩
          rcases exists_spells_of_takeText textTaken with ⟨textLength, textSpells, last⟩
          refine ⟨authorLength, textLength, authorSpells, textSpells, ?_⟩
          rw [List.isEmpty_iff.mp finished, List.append_nil] at last
          rw [last] at behind
          rw [spelled, ← behind]
          exact (header_of_read (Nat.not_lt.mp short) rfl known rfl).symm

/-- A message that is read has texts whose lengths are 64-bit numbers. -/
theorem fits_of_decode {bytes : Bytes} {message : Message} (read : decode bytes = .ok message) :
    message.Fits := by
  rcases exists_spells_of_decode read with ⟨_, _, author, text, -⟩
  exact ⟨author.lt_within, text.lt_within⟩

/--
A byte string that is read as a message has two lengths, each in one of its spellings, and
differs from the record of the message at most in these.  The record is read as the same
message and is no longer, and it is the same byte string exactly if both lengths are in
their shortest spellings.
-/
theorem rewritten_iff_shortest {bytes : Bytes} {message : Message}
    (read : decode bytes = .ok message) :
    decode (encode message) = .ok message ∧ (encode message).length ≤ bytes.length ∧
      ∃ authorLength textLength,
        LengthPrefix.Spells LengthPrefix.longest authorLength
          (Bytes.ofText message.author).length ∧
        LengthPrefix.Spells LengthPrefix.longest textLength
          (Bytes.ofText message.text).length ∧
        bytes = spelled message authorLength textLength ∧
        (encode message = bytes ↔
          LengthPrefix.Shortest authorLength ∧ LengthPrefix.Shortest textLength) := by
  rcases exists_spells_of_decode read with ⟨authorLength, textLength, author, text, rfl⟩
  have authorLe := author.spelling.length_encode_value_le
  have textLe := text.spelling.length_encode_value_le
  have authorSame := author.spelling.encode_value_eq_iff
  have textSame := text.spelling.encode_value_eq_iff
  rw [author.value] at authorLe authorSame
  rw [text.value] at textLe textSame
  rw [encode_eq_spelled]
  refine ⟨decode_encode (fits_of_decode read), ?_, authorLength, textLength, author, text, rfl, ?_⟩
  · simp only [spelled, List.length_append]
    omega
  rw [← authorSame, ← textSame]
  constructor
  · intro same
    -- Neither length is shorter than what is written for it, so neither is longer.
    have lengths := congrArg List.length same
    simp only [spelled, List.length_append] at lengths
    have sameLength : (LengthPrefix.encode (Bytes.ofText message.author).length ++
        Bytes.ofText message.author).length =
          (authorLength ++ Bytes.ofText message.author).length := by
      rw [List.length_append, List.length_append]
      omega
    rcases List.append_inj (List.append_cancel_left same) sameLength with ⟨authors, texts⟩
    exact ⟨List.append_cancel_right authors, List.append_cancel_right texts⟩
  · rintro ⟨authorIs, textIs⟩
    rw [authorIs, textIs]

/-- The record of an empty message, with the length of its author spelled in two bytes. -/
def paddedRecord : Bytes :=
  spelled (.written "" "") [0x80, 0x00] [0x00]

theorem decode_paddedRecord : decode paddedRecord = .ok (.written "" "") := by
  have padded : LengthPrefix.Spells LengthPrefix.longest [0x80, 0x00] 0 :=
    ⟨.more 0x80 (by decide) (.last 0x00 (by decide)), by decide, nofun, rfl⟩
  have short : LengthPrefix.Spells LengthPrefix.longest [0x00] 0 :=
    ⟨.last 0x00 (by decide), by decide, nofun, rfl⟩
  exact decode_spelled padded short

theorem rewritten_iff_shortest_of_padded :
    decode paddedRecord = .ok (.written "" "") ∧
      decode (encode (.written "" "")) = .ok (.written "" "") ∧
      (encode (.written "" "")).length ≤ paddedRecord.length ∧
      ∃ authorLength textLength,
        LengthPrefix.Spells LengthPrefix.longest authorLength (Bytes.ofText "").length ∧
        LengthPrefix.Spells LengthPrefix.longest textLength (Bytes.ofText "").length ∧
        paddedRecord = spelled (.written "" "") authorLength textLength ∧
        (encode (.written "" "") = paddedRecord ↔
          LengthPrefix.Shortest authorLength ∧ LengthPrefix.Shortest textLength) :=
  ⟨decode_paddedRecord, rewritten_iff_shortest decode_paddedRecord⟩

/-- The padded bytes are read as the empty message, and are not its record. -/
theorem padded_record_is_read :
    decode paddedRecord = .ok (.written "" "") ∧ encode (.written "" "") ≠ paddedRecord :=
  ⟨decode_paddedRecord, by decide +kernel⟩

end Record

end Message

end FrameChat
