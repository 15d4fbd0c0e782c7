import FrameChat.Message
import FrameChat.Proofs.Intake.Names
import Mathlib.Data.List.Basic
import Mathlib.Data.String.Basic
import Mathlib.Tactic.Push

/-!
# Texts and authors

What is left of a text after cleaning has at most so many bytes, fewer line feeds than lines
are allowed, and no carriage returns; what is left of an identity is short and has the
characters of names only.  A written message that is made of both is `Admissible`, if anything
of it can be seen.
-/

namespace FrameChat.Intake

variable {maxBytes maxLines bytes lineFeeds : Nat} {chars : List Char} {char : Char}

/-- Names have letters and digits of ASCII, three signs, and what is visible beyond Latin-1. -/
theorem isNameChar_iff :
    isNameChar char = true ↔
      char.isAlphanum = true ∨ char ∈ ['.', '_', '-'] ∨
        0xFF < char.toNat ∧ Text.isBlank char = false := by
  simp [isNameChar, or_assoc]

/-! ## What is left of a text -/

theorem mem_of_mem_keepFitting
    (member : char ∈ keepFitting maxBytes maxLines bytes lineFeeds chars) : char ∈ chars := by
  fun_induction keepFitting maxBytes maxLines bytes lineFeeds chars with
  | case1 => cases member
  | case2 => cases member
  | case3 => cases member
  | case4 bytes lineFeeds first rest more goesOn fits ih =>
      rcases List.mem_cons.mp member with rfl | later
      · exact List.mem_cons_self
      · exact List.mem_cons_of_mem _ (ih later)

/-- Cleaning a message adds nothing to it. -/
theorem mem_of_mem_cleanMessage {raw : String}
    (member : char ∈ (cleanMessage raw maxBytes maxLines).toList) : char ∈ raw.toList := by
  rw [cleanMessage, String.toList_ofList] at member
  exact List.mem_of_mem_filter (mem_of_mem_keepFitting member)

/-- What is kept has no more bytes than are left. -/
theorem utf8Len_keepFitting_le (chars : List Char) (fits : bytes ≤ maxBytes) :
    bytes + String.utf8Len (keepFitting maxBytes maxLines bytes lineFeeds chars) ≤ maxBytes := by
  fun_induction keepFitting maxBytes maxLines bytes lineFeeds chars with
  | case1 => exact fits
  | case2 => exact fits
  | case3 => exact fits
  | case4 bytes lineFeeds first rest more goesOn room ih =>
      rw [String.utf8Len_cons]
      have others := ih (Nat.le_of_not_lt room)
      omega

/-- What is kept has fewer line feeds than lines are allowed, counting those before. -/
theorem count_keepFitting_lt (chars : List Char) (within : lineFeeds < max maxLines 1) :
    lineFeeds + (keepFitting maxBytes maxLines bytes lineFeeds chars).count '\n' <
      max maxLines 1 := by
  fun_induction keepFitting maxBytes maxLines bytes lineFeeds chars with
  | case1 => exact within
  | case2 => exact within
  | case3 => exact within
  | case4 bytes lineFeeds first rest more goesOn room ih =>
      by_cases feed : first = '\n'
      · subst feed
        have below : more < maxLines := Nat.lt_of_not_le fun full => goesOn ⟨rfl, full⟩
        have next : more = lineFeeds + 1 := if_pos rfl
        have others := ih (by omega)
        rw [List.count_cons_self]
        omega
      · have next : more = lineFeeds := if_neg feed
        rw [List.count_cons_of_ne feed, ← next]
        exact ih (next ▸ within)

theorem utf8ByteSize_cleanMessage_le (raw : String) (maxBytes maxLines : Nat) :
    (cleanMessage raw maxBytes maxLines).utf8ByteSize ≤ maxBytes := by
  rw [cleanMessage, String.utf8ByteSize_ofList]
  have fits := @utf8Len_keepFitting_le maxBytes maxLines 0 0
    (raw.toList.filter (· ≠ '\r')) (Nat.zero_le maxBytes)
  omega

theorem count_cleanMessage_lt (raw : String) (maxBytes maxLines : Nat) :
    (cleanMessage raw maxBytes maxLines).toList.count '\n' < max maxLines 1 := by
  rw [cleanMessage, String.toList_ofList]
  have within := @count_keepFitting_lt maxBytes maxLines 0 0
    (raw.toList.filter (· ≠ '\r')) (Nat.lt_of_lt_of_le Nat.zero_lt_one (Nat.le_max_right _ _))
  omega

theorem not_mem_cleanMessage (raw : String) (maxBytes maxLines : Nat) :
    '\r' ∉ (cleanMessage raw maxBytes maxLines).toList := by
  intro member
  rw [cleanMessage, String.toList_ofList] at member
  have kept := List.of_mem_filter (mem_of_mem_keepFitting member)
  simp at kept

/-! ## Written messages -/

/-- A written message as limits admit it. -/
structure Limits.Admissible (limits : Limits) (message : Message) : Prop where
  authorLength : message.author.length ≤ limits.maxIdentityChars
  authorChars : ∀ char ∈ message.author.toList,
    char.isAlphanum = true ∨ char ∈ ['.', '_', '-'] ∨
      0xFF < char.toNat ∧ Text.isBlank char = false
  textBytes : message.text.utf8ByteSize ≤ limits.maxMessageBytes
  lineFeeds : message.text.toList.count '\n' < max limits.maxMessageLines 1
  noReturns : '\r' ∉ message.text.toList
  visible : ∃ char ∈ message.text.toList, Text.isBlank char = false

/-- A clean text by a clean identity is admissible, if anything of it can be seen. -/
theorem admissible_written {intake : Intake} {identity text : String}
    (visible : ¬Text.allBlank (cleanMessage text intake.limits.maxMessageBytes
      intake.limits.maxMessageLines) = true) :
    intake.limits.Admissible (.written (intake.identity identity)
      (cleanMessage text intake.limits.maxMessageBytes intake.limits.maxMessageLines)) where
  authorLength := length_cleanName_le identity intake.limits.maxIdentityChars
  authorChars := fun _ member => isNameChar_iff.mp (mem_of_mem_cleanName member).2
  textBytes := utf8ByteSize_cleanMessage_le text _ _
  lineFeeds := count_cleanMessage_lt text _ _
  noReturns := not_mem_cleanMessage text _ _
  visible := by
    rw [Text.allBlank, List.all_eq_true] at visible
    push Not at visible
    rcases visible with ⟨char, member, seen⟩
    exact ⟨char, member, Bool.eq_false_iff.mpr seen⟩

/-- A message as it may stand in a log: it was written and is admissible, or it has no text. -/
structure Limits.Loggable (limits : Limits) (message : Message) : Prop where
  written : message.kind = .text → limits.Admissible message
  presence : message.kind ≠ .text → message.text = ""

variable {limits : Limits} {message : Message}

theorem Limits.Admissible.loggable (admissible : limits.Admissible message)
    (kind : message.kind = .text) : limits.Loggable message :=
  ⟨fun _ => admissible, fun other => absurd kind other⟩

theorem loggable_presence {limits : Limits} (identity : String) {kind : MessageKind}
    (presence : kind ≠ .text) : limits.Loggable (.presence identity kind) :=
  ⟨fun same => absurd same presence, fun _ => rfl⟩

/-- Numbering and dating a message makes no difference to limits. -/
theorem Limits.Loggable.numbered (loggable : limits.Loggable message) (id : UInt64)
    (time : Seconds) : limits.Loggable { message with id, time } := by
  refine ⟨fun kind => ?_, loggable.presence⟩
  have admissible := loggable.written kind
  exact ⟨admissible.authorLength, admissible.authorChars, admissible.textBytes,
    admissible.lineFeeds, admissible.noReturns, admissible.visible⟩

end FrameChat.Intake
