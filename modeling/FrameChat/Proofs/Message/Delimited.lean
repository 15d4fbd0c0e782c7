import FrameChat.Proofs.Message.RoundTrip

/-!
# Records that end too early or too late

A record says itself where it ends: its header has a fixed width, and each of its
texts stands behind its length.  A reader compares what is there with these lengths
before it looks at the texts.  If bytes are missing, it therefore reports just that,
also where a length or a character of several bytes is cut in two.  If bytes follow,
it counts them.

* `decode_of_cut`: a record that is cut anywhere is too short.
* `records_delimited`: what is read of a record, of a part of it, and of a record with
  more behind it; no record is the beginning of another one.
-/

namespace FrameChat

/-- A cut through two byte strings lies in the second or, in front of a byte, in the first. -/
theorem Bytes.cut_cases {first second front back : Bytes}
    (whole : first ++ second = front ++ back) :
    (∃ read, front = first ++ read ∧ second = read ++ back) ∨
      ∃ unread, first = front ++ unread ∧ unread ≠ [] := by
  rcases List.append_eq_append_iff.mp whole with ⟨read, here, there⟩ | ⟨unread, here, there⟩
  · exact .inl ⟨read, here, there⟩
  · by_cases none : unread = []
    · subst none
      exact .inl ⟨[], by simpa using here.symm, by simpa using there.symm⟩
    · exact .inr ⟨unread, here, none⟩

namespace Message

namespace LengthPrefix

/-- A prefix that is cut ends too early, wherever the cut is. -/
theorem readWithin_of_cut (allowed : Nat) {length : Nat} {front back : Bytes}
    (fits : length < within allowed) (whole : encode length = front ++ back)
    (missing : back ≠ []) : readWithin (allowed + 1) front = .error .short := by
  fun_induction encode length generalizing allowed front with
  | case1 length small =>
      cases front with
      | nil => rfl
      | cons byte front =>
          have nothing : front ++ back = [] := ((List.cons.inj whole).2).symm
          exact absurd (List.append_eq_nil_iff.mp nothing).2 missing
  | case2 length large ih =>
      cases front with
      | nil => rfl
      | cons byte front =>
          obtain ⟨rfl, further⟩ := List.cons.inj whole
          cases allowed with
          | zero =>
              rw [within_zero] at fits
              omega
          | succ allowed =>
              rw [within_succ] at fits
              have group : (UInt8.ofNat (length % 128 + 128)).toNat = length % 128 + 128 := by
                simp only [UInt8.toNat_ofNat']
                omega
              have cut : readWithin (allowed + 1) front = .error .short :=
                ih allowed (by omega) further
              simp only [readWithin, group]
              rw [if_neg (by omega), if_neg (by omega), Nat.add_sub_cancel, cut]

theorem read_of_cut {length : Nat} (fits : length < UInt64.size) {front back : Bytes}
    (whole : encode length = front ++ back) (missing : back ≠ []) :
    read front = .error .short :=
  readWithin_of_cut 9 fits whole missing

end LengthPrefix

namespace Record

/-- What was to be read ended before it was complete. -/
def EndsEarly {α : Type} (outcome : Except Fault α) : Prop :=
  ∃ needed available, available < needed ∧ outcome = .error (.tooShort needed available)

/-- A text field that is cut is too short: in its length, or in its bytes. -/
theorem takeText_of_cut (field : Field) {text : String}
    (fits : (Bytes.ofText text).length < UInt64.size) {front back : Bytes}
    (whole : encodeText text = front ++ back) (missing : back ≠ []) :
    EndsEarly (takeText field front) := by
  rcases Bytes.cut_cases whole with ⟨read, rfl, body⟩ | ⟨unread, length, uncut⟩
  · have fewer : read.length < (Bytes.ofText text).length := by
      rw [body, List.length_append]
      exact Nat.lt_add_of_pos_right (List.length_pos_iff.mpr missing)
    refine ⟨_, _, fewer, ?_⟩
    simp only [takeText, LengthPrefix.read_encode fits]
    rw [if_pos fewer]
  · refine ⟨_, _, Nat.lt_succ_self front.length, ?_⟩
    simp only [takeText, LengthPrefix.read_of_cut fits length uncut]

/-- Behind a whole header the two texts are read. -/
theorem decode_header_append (message : Message) (rest : Bytes) :
    decode (header message ++ rest) =
      (takeText .author rest).bind fun (author, rest) =>
        (takeText .text rest).bind fun (text, rest) =>
          if rest.isEmpty then .ok ⟨message.id, author, message.time, message.kind, text⟩
          else .error (.trailing rest.length) := by
  rcases read_header message rest with ⟨id, kind, time⟩
  have complete : ¬(header message ++ rest).length < headerLength := by simp
  rw [decode, if_neg complete, id, kind, time, List.drop_left' (length_header message)]
  rfl

/-- A record that is cut anywhere is too short. -/
theorem decode_of_cut {message : Message} (fits : message.Fits) {front back : Bytes}
    (whole : encode message = front ++ back) (missing : back ≠ []) :
    EndsEarly (decode front) := by
  rw [encode_eq] at whole
  rcases Bytes.cut_cases whole with ⟨texts, rfl, cut⟩ | ⟨unread, cut, uncut⟩
  · rw [decode_header_append]
    rcases Bytes.cut_cases cut with ⟨begun, rfl, text⟩ | ⟨unread, author, uncut⟩
    · rw [takeText_encodeText .author fits.author]
      rcases takeText_of_cut .text fits.text text missing with
        ⟨needed, available, fewer, outcome⟩
      refine ⟨needed, available, fewer, ?_⟩
      simp only [Except.bind, outcome]
    · rcases takeText_of_cut .author fits.author author uncut with
        ⟨needed, available, fewer, outcome⟩
      refine ⟨needed, available, fewer, ?_⟩
      simp only [Except.bind, outcome]
  · have short : front.length < headerLength := by
      rw [← length_header message, cut, List.length_append]
      exact Nat.lt_add_of_pos_right (List.length_pos_iff.mpr uncut)
    refine ⟨_, _, short, ?_⟩
    rw [decode, if_pos short]
    rfl

/-- What follows a record is counted. -/
theorem decode_append {message : Message} (fits : message.Fits) {further : Bytes}
    (present : further ≠ []) :
    decode (encode message ++ further) = .error (.trailing further.length) := by
  have author := takeText_encodeText .author fits.author (encodeText message.text ++ further)
  have text := takeText_encodeText .text fits.text further
  have more : further.isEmpty = false := by simpa using present
  rw [encode_eq, List.append_assoc, List.append_assoc, decode_header_append]
  simp only [Except.bind, author, text, more]
  rfl

/--
The record of a message is read as that message.  If it is cut, wherever the cut is, it
is too short, and if bytes follow it, they are counted.  No record is the beginning of
that of another message.
-/
theorem records_delimited {message : Message} (fits : message.Fits) :
    decode (encode message) = .ok message ∧
      (∀ front, front <+: encode message → front ≠ encode message →
        ∃ needed available, available < needed ∧
          decode front = .error (.tooShort needed available)) ∧
      (∀ further, further ≠ [] →
        decode (encode message ++ further) = .error (.trailing further.length)) ∧
      ∀ other : Message, other.Fits → encode other <+: encode message → other = message := by
  have cut : ∀ front, front <+: encode message → front ≠ encode message →
      EndsEarly (decode front) := by
    rintro front ⟨back, whole⟩ proper
    refine decode_of_cut fits whole.symm fun nothing => proper ?_
    rw [← whole, nothing, List.append_nil]
  refine ⟨decode_encode fits, cut, fun further => decode_append fits, ?_⟩
  intro other otherFits begins
  have read := decode_encode otherFits
  by_cases same : encode other = encode message
  · rw [same, decode_encode fits] at read
    exact (Except.ok.inj read).symm
  · rcases cut _ begins same with ⟨needed, available, -, short⟩
    rw [read] at short
    cases short

/-- A message whose text takes a length of two bytes, and four bytes for each character. -/
def cheerfulMessage : Message :=
  ⟨0x0123456789ABCDEF, "ada", -5, .text, String.ofList (List.replicate 40 '😀')⟩

/-- The record of that message, the same without its last byte, and with one byte more. -/
theorem records_delimited_inside_character :
    cheerfulMessage.Fits ∧ decode (encode cheerfulMessage) = .ok cheerfulMessage ∧
      (∃ needed available, available < needed ∧
        decode (encode cheerfulMessage).dropLast = .error (.tooShort needed available)) ∧
      decode (encode cheerfulMessage ++ [0]) = .error (.trailing 1) := by
  have fits : cheerfulMessage.Fits := ⟨by decide +kernel, by decide +kernel⟩
  rcases records_delimited fits with ⟨read, cut, followed, -⟩
  have proper : (encode cheerfulMessage).dropLast ≠ encode cheerfulMessage := by
    intro same
    have lengths := congrArg List.length same
    rw [List.length_dropLast, encode_eq, List.length_append, length_header, headerLength]
      at lengths
    omega
  exact ⟨fits, read, cut _ (List.dropLast_prefix _) proper, followed [0] (by decide)⟩

end Record

end Message

end FrameChat
