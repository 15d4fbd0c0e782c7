import FrameChat.Proofs.Message.Spellings

/-!
# What is accepted as a record

A byte string is read as a message exactly if it is the record of that message with its two
lengths in some of their spellings; every other byte string is refused.

A machine reads a length in words: the groups of seven bits are collected in 64 bits, and the
place of the next group is counted in 32.  The reader is written in this way here as well,
with a check for each shift and each addition.  No check ever fails, since at most ten groups
are read and the tenth has one bit only, and what is read is the same.

* `readWords_eq`: the length of a text, read in words.
* `records_accepted`: which byte strings are read as a message.
-/

namespace FrameChat.Message

namespace LengthPrefix

/-! ## Words -/

/-- The sum of two words of 32 bits, unless it has more bits. -/
def sum32? (first second : UInt32) : Option UInt32 :=
  if first.toNat + second.toNat < UInt32.size then some (first + second) else none

/-- The sum of two words of 64 bits, unless it has more bits. -/
def sum64? (first second : UInt64) : Option UInt64 :=
  if first.toNat + second.toNat < UInt64.size then some (first + second) else none

/-- A word of 64 bits moved up, unless there are not so many places or bits are lost. -/
def movedUp? (word : UInt64) (places : UInt32) : Option UInt64 :=
  if places.toNat < 64 ∧ word.toNat <<< places.toNat < UInt64.size then
    some (word <<< places.toUInt64)
  else none

theorem sum32?_ofNat {first second : Nat} (fits : first + second < UInt32.size) :
    sum32? (.ofNat first) (.ofNat second) = some (.ofNat (first + second)) := by
  rw [sum32?, UInt32.toNat_ofNat_of_lt' (by omega), UInt32.toNat_ofNat_of_lt' (by omega),
    if_pos fits, UInt32.ofNat_add]

theorem sum64?_ofNat {first second : Nat} (fits : first + second < UInt64.size) :
    sum64? (.ofNat first) (.ofNat second) = some (.ofNat (first + second)) := by
  rw [sum64?, UInt64.toNat_ofNat_of_lt' (by omega), UInt64.toNat_ofNat_of_lt' (by omega),
    if_pos fits, UInt64.ofNat_add]

theorem exists_movedUp? {word : UInt64} {places : Nat} (inside : places < 64)
    (fits : word.toNat <<< places < UInt64.size) :
    ∃ moved, movedUp? word (.ofNat places) = some moved ∧
      moved.toNat = word.toNat <<< places := by
  have count : (UInt32.ofNat places).toNat = places :=
    UInt32.toNat_ofNat_of_lt' (Nat.lt_trans inside (by decide))
  refine ⟨word <<< (UInt32.ofNat places).toUInt64, ?_, ?_⟩
  · rw [movedUp?, count, if_pos ⟨inside, fits⟩]
  · rw [UInt64.toNat_shiftLeft, UInt32.toNat_toUInt64, count, Nat.mod_eq_of_lt inside]
    exact Nat.mod_eq_of_lt fits

/-- Bits that are moved above a word are added to it. -/
theorem toNat_lor_of_lt {word moved : UInt64} {group places : Nat}
    (small : word.toNat < Nat.pow 2 places) (place : moved.toNat = group <<< places) :
    (word ||| moved).toNat = word.toNat + group <<< places := by
  rw [UInt64.toNat_or, place, Nat.or_comm, ← Nat.shiftLeft_add_eq_or_of_lt small, Nat.add_comm]

end LengthPrefix

namespace Record

open LengthPrefix

/-! ## Lengths in words -/

/--
Read on in a length of which `index` groups are in `word`; the next one has its place `places`
bits up.  The number of bytes that spell the length is returned beside it, and `none` if a
shift or an addition overflows.
-/
def readWordsFrom (available : Nat) (index word : UInt64) (places : UInt32) :
    Bytes → Option (Except Fault (Nat × Nat))
  | [] => do
      let needed ← sum64? (.ofNat available) 1
      return .error (.tooShort needed.toNat available)
  | byte :: rest =>
      if index = 9 ∧ 1 < byte then return .error .malformedPrefix
      else do
        let group ← movedUp? (byte &&& 0x7F).toUInt64 places
        let count ← sum64? index 1
        if byte < 0x80 then return .ok ((word ||| group).toNat, count.toNat)
        else
          let places ← sum32? places 7
          readWordsFrom available count (word ||| group) places rest

/-- Read the length at the front of `bytes` in words. -/
def readWords (bytes : Bytes) : Option (Except Fault (Nat × Nat)) :=
  readWordsFrom bytes.length 0 0 0 (bytes.take longest)

/-- Read a text field whose length is read in words. -/
def takeTextInWords (field : Field) (bytes : Bytes) : Option (Except Fault (String × Bytes)) := do
  match ← readWords bytes with
  | .error fault => return .error fault
  | .ok (length, used) =>
      let body := bytes.drop used
      if body.length < length then return .error (.tooShort length body.length)
      else
        match Bytes.text? (body.take length) with
        | none => return .error (.invalidText field)
        | some text => return .ok (text, body.drop length)

/-- What is said of a length: the number and how many bytes spell it, or a fault. -/
def lengthReport (available index word : Nat) (bytes : Bytes) :
    Except LengthPrefix.Fault (Nat × Bytes) → Except Fault (Nat × Nat)
  | .error .short => .error (.tooShort (available + 1) available)
  | .error .malformed => .error .malformedPrefix
  | .ok (length, body) =>
      .ok (word + length <<< (7 * index), index + (bytes.length - body.length))

theorem toNat_group (byte : UInt8) : (byte &&& 0x7F).toUInt64.toNat = byte.toNat % 128 := by
  rw [UInt8.toNat_toUInt64, UInt8.toNat_and]
  exact Nat.and_two_pow_sub_one_eq_mod _ 7

theorem lt_size {number : Nat} (few : number ≤ 10) : number < UInt64.size :=
  Nat.lt_of_le_of_lt few (by decide)

/-- A group fits in at its place: one of seven bits below the tenth, and a single bit there. -/
theorem group_shiftLeft_lt {index group : Nat} (few : index ≤ 9) (bits : group < 128)
    (last : index = 9 → group ≤ 1) : group <<< (7 * index) < UInt64.size := by
  rw [Nat.shiftLeft_eq]
  by_cases tenth : index = 9
  · have bit := last tenth
    have top : 2 ^ (7 * 9) = 9223372036854775808 := rfl
    rw [tenth, top, UInt64.size]
    omega
  · have room : 2 ^ (7 * index) ≤ 2 ^ 56 := Nat.pow_le_pow_right (by decide) (by omega)
    calc group * 2 ^ (7 * index)
      _ ≤ 127 * 2 ^ 56 := Nat.mul_le_mul (Nat.le_of_lt_succ bits) room
      _ < UInt64.size := by decide

/-- A word with one more group stays below the place of the next one. -/
theorem word_lt {index word group : Nat} (small : word < Nat.pow 2 (7 * index))
    (bits : group < 128) : word + group <<< (7 * index) < Nat.pow 2 (7 * (index + 1)) := by
  have next : Nat.pow 2 (7 * (index + 1)) = 2 ^ (7 * index) * 128 := Nat.pow_add 2 (7 * index) 7
  have groups : group * 2 ^ (7 * index) ≤ 127 * 2 ^ (7 * index) :=
    Nat.mul_le_mul_right _ (Nat.le_of_lt_succ bits)
  have below : word < 2 ^ (7 * index) := small
  rw [next, Nat.shiftLeft_eq]
  omega

theorem is_tenth_iff {index : Nat} (few : index ≤ 9) (byte : UInt8) :
    UInt64.ofNat index = 9 ∧ 1 < byte ↔ index = 9 ∧ 1 < byte.toNat := by
  have indexed : (UInt64.ofNat index).toNat = index :=
    UInt64.toNat_ofNat_of_lt' (lt_size (by omega))
  rw [← UInt64.toNat_inj, indexed]
  exact and_congr_right fun _ => UInt8.lt_iff_toNat_lt

/-- What a byte does whose group fits in: it ends the length, or reading goes on behind it. -/
theorem readWordsFrom_cons {index : Nat} {word : UInt64} {byte : UInt8} (few : index ≤ 9)
    (small : word.toNat < Nat.pow 2 (7 * index)) (narrow : ¬ (index = 9 ∧ 1 < byte.toNat))
    (available : Nat) (rest : Bytes) :
    ∃ next : UInt64,
      next.toNat = word.toNat + (byte.toNat % 128) <<< (7 * index) ∧
      next.toNat < Nat.pow 2 (7 * (index + 1)) ∧
      readWordsFrom available (.ofNat index) word (.ofNat (7 * index)) (byte :: rest) =
        if byte.toNat < 128 then some (.ok (next.toNat, index + 1))
        else readWordsFrom available (.ofNat (index + 1)) next (.ofNat (7 * (index + 1))) rest := by
  have bits : byte.toNat % 128 < 128 := Nat.mod_lt _ (by decide)
  have fits : (byte &&& 0x7F).toUInt64.toNat <<< (7 * index) < UInt64.size := by
    rw [toNat_group]
    exact group_shiftLeft_lt few bits (by omega)
  rcases exists_movedUp? (by omega) fits with ⟨group, moved, place⟩
  rw [toNat_group] at place
  have sum := toNat_lor_of_lt small place
  have counted : sum64? (.ofNat index) 1 = some (.ofNat (index + 1)) :=
    sum64?_ofNat (lt_size (show index + 1 ≤ 10 by omega))
  have count : (UInt64.ofNat (index + 1)).toNat = index + 1 :=
    UInt64.toNat_ofNat_of_lt' (lt_size (by omega))
  have further : sum32? (.ofNat (7 * index)) 7 = some (.ofNat (7 * (index + 1))) :=
    sum32?_ofNat (Nat.lt_of_le_of_lt (show 7 * index + 7 ≤ 70 by omega) (by decide))
  refine ⟨word ||| group, sum, sum ▸ word_lt small bits, ?_⟩
  rw [readWordsFrom, if_neg (mt (is_tenth_iff few byte).mp narrow), moved, counted]
  simp only [Option.bind_eq_bind, Option.bind_some, further, count, UInt8.lt_iff_toNat_lt]
  rfl

theorem length_le_of_readWithin {allowed length : Nat} {bytes rest : Bytes}
    (read : readWithin (allowed + 1) bytes = .ok (length, rest)) :
    rest.length ≤ bytes.length := by
  rcases exists_spells_of_readWithin read with ⟨front, -, rfl⟩
  rw [List.length_append]
  exact Nat.le_add_left _ _

/-- What is said of a length, when its first group is in the word and when it is not. -/
theorem lengthReport_cons {allowed available index word : Nat} {byte : UInt8} {rest : Bytes}
    (high : ¬ byte.toNat < 128) :
    lengthReport available (index + 1) (word + (byte.toNat % 128) <<< (7 * index)) rest
        (readWithin (allowed + 1) rest) =
      lengthReport available index word (byte :: rest)
        (match readWithin (allowed + 1) rest with
        | .error fault => .error fault
        | .ok (length, body) => .ok (byte.toNat - 128 + 128 * length, body)) := by
  cases read : readWithin (allowed + 1) rest with
  | error fault => cases fault <;> rfl
  | ok found =>
      rcases found with ⟨length, body⟩
      have bound := byte.toNat_lt
      have shorter := length_le_of_readWithin read
      have low : byte.toNat % 128 = byte.toNat - 128 := by omega
      have next : 2 ^ (7 * (index + 1)) = 2 ^ (7 * index) * 128 := Nat.pow_add 2 (7 * index) 7
      have sum : word + (byte.toNat - 128) <<< (7 * index) + length <<< (7 * (index + 1)) =
          word + (byte.toNat - 128 + 128 * length) <<< (7 * index) := by
        rw [Nat.shiftLeft_eq, Nat.shiftLeft_eq, Nat.shiftLeft_eq, next, Nat.add_mul, Nat.add_assoc,
          Nat.mul_comm 128 length, Nat.mul_assoc, Nat.mul_comm 128]
      have count : index + 1 + (rest.length - body.length) =
          index + (rest.length + 1 - body.length) := by omega
      simp only [lengthReport, low, sum, count, List.length_cons]

/-- The groups that are read in words make the number that is read without a bound. -/
theorem readWordsFrom_eq {index allowed available : Nat} {word : UInt64} {bytes : Bytes}
    (total : index + allowed = 9) (small : word.toNat < Nat.pow 2 (7 * index))
    (length : available = index + bytes.length) :
    readWordsFrom available (.ofNat index) word (.ofNat (7 * index)) (bytes.take (allowed + 1)) =
      some (lengthReport available index word.toNat bytes (readWithin (allowed + 1) bytes)) := by
  induction bytes generalizing index allowed word with
  | nil =>
      -- There were fewer than ten bytes, or the reader would have come to an end before.
      rw [List.length_nil, Nat.add_zero] at length
      have few : available + 1 < UInt64.size := lt_size (by omega)
      have needed : sum64? (.ofNat available) 1 = some (.ofNat (available + 1)) :=
        sum64?_ofNat few
      rw [List.take_nil, readWordsFrom, needed]
      simp only [Option.bind_eq_bind, Option.bind_some, UInt64.toNat_ofNat_of_lt' few]
      rfl
  | cons byte rest ih =>
      have last : allowed + 1 = 1 ↔ index = 9 := by omega
      simp only [List.take_succ_cons, readWithin, last]
      by_cases wide : index = 9 ∧ 1 < byte.toNat
      · rw [readWordsFrom, if_pos ((is_tenth_iff (by omega) byte).mpr wide), if_pos wide]
        rfl
      rcases readWordsFrom_cons (by omega) small wide available (rest.take allowed) with
        ⟨next, sum, below, step⟩
      rw [step, if_neg wide]
      by_cases low : byte.toNat < 128
      · have one : rest.length + 1 - rest.length = 1 := Nat.add_sub_cancel_left rest.length 1
        rw [if_pos low, if_pos low, sum, Nat.mod_eq_of_lt low]
        simp only [lengthReport, List.length_cons, one]
      · obtain ⟨fewer, rfl⟩ : ∃ fewer, allowed = fewer + 1 := ⟨allowed - 1, by omega⟩
        have behind : available = index + 1 + rest.length := by
          rw [length, List.length_cons, Nat.add_assoc, Nat.add_comm 1]
        rw [if_neg low, if_neg low, ih (by omega) below behind, sum, lengthReport_cons low]
        rfl

/-- No shift and no addition overflows, and the length is the one that is read without words. -/
theorem readWords_eq (bytes : Bytes) :
    readWords bytes = some (lengthReport bytes.length 0 0 bytes (LengthPrefix.read bytes)) :=
  readWordsFrom_eq (show 0 + 9 = 9 from rfl) Nat.one_pos (Nat.zero_add _).symm

theorem takeTextInWords_eq (field : Field) (bytes : Bytes) :
    takeTextInWords field bytes = some (takeText field bytes) := by
  rw [takeTextInWords, readWords_eq, takeText]
  cases read : LengthPrefix.read bytes with
  | error fault => cases fault <;> rfl
  | ok found =>
      rcases found with ⟨length, body⟩
      rcases exists_spells_of_readWithin read with ⟨front, -, rfl⟩
      have used : 0 + ((front ++ body).length - body.length) = front.length := by
        rw [List.length_append]
        omega
      have behind : (front ++ body).drop front.length = body := List.drop_left
      simp only [lengthReport, used, behind, Nat.mul_zero, Nat.shiftLeft_zero, Nat.zero_add,
        Option.bind_eq_bind, Option.bind_some]
      split
      · rfl
      · cases Bytes.text? (body.take length) <;> rfl

/-! ## Records -/

/--
A byte string as a record of a message: number, tag and time in eight bytes each, then author
and text, each behind one of the spellings of its length.
-/
def IsRecordOf (bytes : Bytes) (message : Message) : Prop :=
  ∃ authorLength textLength,
    Spells longest authorLength (Bytes.ofText message.author).length ∧
    Spells longest textLength (Bytes.ofText message.text).length ∧
    bytes = Bytes.bigEndian 8 message.id.toNat ++ Bytes.bigEndian 8 (tag message.kind) ++
      Bytes.bigEndian 8 message.time.toUInt64.toNat ++
      authorLength ++ Bytes.ofText message.author ++ textLength ++ Bytes.ofText message.text

theorem spelled_eq (message : Message) (authorLength textLength : Bytes) :
    spelled message authorLength textLength =
      Bytes.bigEndian 8 message.id.toNat ++ Bytes.bigEndian 8 (tag message.kind) ++
        Bytes.bigEndian 8 message.time.toUInt64.toNat ++
        authorLength ++ Bytes.ofText message.author ++ textLength ++
        Bytes.ofText message.text := by
  simp only [spelled, header, List.append_assoc]

theorem decode_eq_ok_iff {bytes : Bytes} {message : Message} :
    decode bytes = .ok message ↔ IsRecordOf bytes message := by
  simp only [IsRecordOf, ← spelled_eq]
  constructor
  · exact exists_spells_of_decode
  · rintro ⟨authorLength, textLength, author, text, rfl⟩
    exact decode_spelled author text

/--
A byte string is read as a message exactly if it is a record of it, and is refused exactly if
it is a record of none.  Where the length of a text is read in words, no shift and no addition
overflows, whatever the bytes, and the text or the fault is the same.
-/
theorem records_accepted (bytes : Bytes) :
    (∀ message, decode bytes = .ok message ↔ IsRecordOf bytes message) ∧
      ((∃ fault, decode bytes = .error fault) ↔ ∀ message, ¬ IsRecordOf bytes message) ∧
      ∀ field, takeTextInWords field bytes = some (takeText field bytes) := by
  refine ⟨fun message => decode_eq_ok_iff, ?_, fun field => takeTextInWords_eq field bytes⟩
  simp only [← decode_eq_ok_iff]
  cases decode bytes with
  | error fault => exact iff_of_true ⟨fault, rfl⟩ nofun
  | ok message => exact iff_of_false nofun fun none => none message rfl

end Record

end FrameChat.Message
