import FrameChat.Bytes

/-!
# Where UTF-8 decoding stops

Core decides whether a byte string is UTF-8.  A reader who wants to report a
broken name also has to say where it breaks and how many bytes belong to the
broken sequence, and a lenient reader replaces each broken sequence by U+FFFD.
Both follow the same rule: a broken sequence is the longest run of bytes that
could still have begun a character, or a single byte if none could.
-/

namespace FrameChat.Text.Utf8

/-- What stands at the front of a byte string that begins with a given byte. -/
inductive Front where
  /-- a whole character of `width` bytes -/
  | whole (char : Char) (width : Nat)
  /-- as many bytes as `width` says, which begin no character -/
  | broken (width : Nat)
  /-- the beginning of a character, and then the end of the bytes -/
  | cut
  deriving Repr, DecidableEq

/-- A byte that can follow the first two of a character. -/
def isContinuation (byte : UInt8) : Bool :=
  0x80 ≤ byte && byte ≤ 0xBF

/-- Bytes in the sequence that `lead` begins; `none` if it begins none. -/
def width? (lead : UInt8) : Option Nat :=
  if lead < 0x80 then some 1
  else if 0xC2 ≤ lead && lead ≤ 0xDF then some 2
  else if 0xE0 ≤ lead && lead ≤ 0xEF then some 3
  else if 0xF0 ≤ lead && lead ≤ 0xF4 then some 4
  else none

/--
The second bytes that `lead` allows: overlong forms, surrogates and numbers
above U+10FFFF are excluded here.
-/
def allowsSecond (lead second : UInt8) : Bool :=
  if lead = 0xE0 then 0xA0 ≤ second && second ≤ 0xBF
  else if lead = 0xED then 0x80 ≤ second && second ≤ 0x9F
  else if lead = 0xF0 then 0x90 ≤ second && second ≤ 0xBF
  else if lead = 0xF4 then 0x80 ≤ second && second ≤ 0x8F
  else isContinuation second

/-- The character with the given lead bits and six bits of each further byte. -/
def assemble (leadBits : Nat) (further : Bytes) : Char :=
  Char.ofNat (further.foldl (fun bits byte => bits * 64 + byte.toNat % 64) leadBits)

/-- Read the front of `lead :: rest`. -/
def front (lead : UInt8) (rest : Bytes) : Front :=
  match width? lead, rest with
  | none, _ => .broken 1
  | some 1, _ => .whole (Char.ofNat lead.toNat) 1
  | some _, [] => .cut
  | some 2, second :: _ =>
      if allowsSecond lead second then .whole (assemble (lead.toNat % 32) [second]) 2
      else .broken 1
  | some 3, second :: rest =>
      if allowsSecond lead second then
        match rest with
        | [] => .cut
        | third :: _ =>
            if isContinuation third then
              .whole (assemble (lead.toNat % 16) [second, third]) 3
            else .broken 2
      else .broken 1
  | some _, second :: rest =>
      if allowsSecond lead second then
        match rest with
        | [] => .cut
        | third :: rest =>
            if isContinuation third then
              match rest with
              | [] => .cut
              | fourth :: _ =>
                  if isContinuation fourth then
                    .whole (assemble (lead.toNat % 8) [second, third, fourth]) 4
                  else .broken 3
            else .broken 2
      else .broken 1

/-- The first broken sequence of a byte string. -/
structure Break where
  /-- bytes of whole characters before it -/
  offset : Nat
  /-- its length, or `none` if the bytes end inside a character -/
  width : Option Nat
  deriving Repr, DecidableEq

/-- Look for the first broken sequence, `offset` bytes into the string. -/
def breakFrom (offset : Nat) : Bytes → Option Break
  | [] => none
  | lead :: rest =>
      match front lead rest with
      | .whole _ width => breakFrom (offset + width) (rest.drop (width - 1))
      | .broken width => some ⟨offset, some width⟩
      | .cut => some ⟨offset, none⟩
termination_by bytes => bytes.length
decreasing_by
  simp only [List.length_drop, List.length_cons]
  omega

/-- The first broken sequence of `bytes`, if they are not UTF-8. -/
def break? (bytes : Bytes) : Option Break :=
  breakFrom 0 bytes

/-- How a report words a broken sequence. -/
def Break.message : Break → String
  | ⟨offset, some width⟩ =>
      s!"invalid utf-8 sequence of {width} bytes from index {offset}"
  | ⟨offset, none⟩ => s!"incomplete utf-8 byte sequence from index {offset}"

/-- The characters of `bytes`, each broken sequence read as U+FFFD. -/
def lenientChars : Bytes → List Char
  | [] => []
  | lead :: rest =>
      match front lead rest with
      | .whole char width => char :: lenientChars (rest.drop (width - 1))
      | .broken width => '\uFFFD' :: lenientChars (rest.drop (width - 1))
      | .cut => ['\uFFFD']
termination_by bytes => bytes.length
decreasing_by
  all_goals
    simp only [List.length_drop, List.length_cons]
    omega

/-- The text of `bytes`, each broken sequence read as U+FFFD. -/
def lenient (bytes : Bytes) : String :=
  String.ofList (lenientChars bytes)

end FrameChat.Text.Utf8
