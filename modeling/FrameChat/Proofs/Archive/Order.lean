import FrameChat.Archive.Tables
import FrameChat.Channel

/-!
# Messages in the order of their numbers

Both archives keep the records of a channel in a sorted table: one by the
numbers themselves, the other by eight big-endian bytes of them.  The two
orders are the same, so that what a table does with records can be said of
messages alone: `place` puts a message among others in the order of numbers, in
place of one with the same number, and `insertInto_map` says that a table under
any keys in that order does just this.
-/

namespace FrameChat

namespace Bytes

theorem bigEndian_succ (width value : Nat) :
    bigEndian (width + 1) value = bigEndian width (value / 256) ++ [UInt8.ofNat value] := by
  simp [bigEndian, littleEndian]

/-- What follows byte strings of one length decides their order only where they agree. -/
theorem compare_append (left right : Bytes) (same : left.length = right.length)
    (leftRest rightRest : Bytes) :
    compare (left ++ leftRest) (right ++ rightRest) =
      (compare left right).then (compare leftRest rightRest) := by
  induction left generalizing right with
  | nil =>
      obtain rfl : right = [] := List.length_eq_zero_iff.mp same.symm
      rfl
  | cons byte left ih =>
      cases right with
      | nil => simp at same
      | cons other right =>
          have tails : left.length = right.length := by simpa using same
          simp [ih right tails, Ordering.then_assoc]

theorem compare_ofNat (first second : Nat) :
    compare (UInt8.ofNat first) (UInt8.ofNat second) = compare (first % 256) (second % 256) := by
  have bytes (value : Nat) : (UInt8.ofNat value).toNat = value % 256 := by simp
  rcases Nat.lt_trichotomy (first % 256) (second % 256) with less | same | more
  · rw [Nat.compare_eq_lt.mpr less, Std.compare_eq_lt, UInt8.lt_iff_toNat_lt, bytes, bytes]
    exact less
  · rw [Nat.compare_eq_eq.mpr same, Std.LawfulEqOrd.compare_eq_iff_eq, ← UInt8.toNat_inj, bytes,
      bytes]
    exact same
  · rw [Nat.compare_eq_gt.mpr more, Std.compare_eq_gt, UInt8.lt_iff_toNat_lt, bytes, bytes]
    exact more

/-- Numbers compare by their quotients, and by their remainders where these agree. -/
theorem compare_div_mod (first second : Nat) :
    (compare (first / 256) (second / 256)).then (compare (first % 256) (second % 256)) =
      compare first second := by
  rcases Nat.lt_trichotomy (first / 256) (second / 256) with less | same | more
  · have whole : first < second := by omega
    rw [Nat.compare_eq_lt.mpr less, Nat.compare_eq_lt.mpr whole]
    rfl
  · rw [Nat.compare_eq_eq.mpr same, Ordering.eq_then]
    rcases Nat.lt_trichotomy (first % 256) (second % 256) with less | equal | more
    · rw [Nat.compare_eq_lt.mpr less, Nat.compare_eq_lt.mpr (by omega)]
    · rw [Nat.compare_eq_eq.mpr equal, Nat.compare_eq_eq.mpr (by omega)]
    · rw [Nat.compare_eq_gt.mpr more, Nat.compare_eq_gt.mpr (by omega)]
  · have whole : second < first := by omega
    rw [Nat.compare_eq_gt.mpr more, Nat.compare_eq_gt.mpr whole]
    rfl

/-- Big-endian bytes of one width are in the order of the numbers that fit in it. -/
theorem compare_bigEndian (width : Nat) {first second : Nat}
    (firstFits : first < Nat.pow 256 width) (secondFits : second < Nat.pow 256 width) :
    compare (bigEndian width first) (bigEndian width second) = compare first second := by
  induction width generalizing first second with
  | zero =>
      obtain rfl : first = 0 := Nat.lt_one_iff.mp firstFits
      obtain rfl : second = 0 := Nat.lt_one_iff.mp secondFits
      rfl
  | succ width ih =>
      have quotient {value : Nat} (fits : value < Nat.pow 256 (width + 1)) :
          value / 256 < Nat.pow 256 width :=
        Nat.div_lt_of_lt_mul (Nat.mul_comm _ _ ▸ fits)
      rw [bigEndian_succ, bigEndian_succ, compare_append _ _ (by simp),
        ih (quotient firstFits) (quotient secondFits), List.compare_cons_cons, compare_ofNat,
        List.compare_nil_nil, Ordering.then_eq, compare_div_mod]

end Bytes

theorem SortedTable.mem_insertInto {κ ν : Type} [Ord κ] {key : κ} {value : ν} {entry : κ × ν}
    {entries : List (κ × ν)} (member : entry ∈ SortedTable.insertInto key value entries) :
    entry = (key, value) ∨ entry ∈ entries := by
  induction entries with
  | nil => simpa [SortedTable.insertInto] using member
  | cons head rest ih =>
      rw [SortedTable.insertInto] at member
      split at member
      · simpa using member
      · rcases List.mem_cons.mp member with same | old
        · exact Or.inl same
        · exact Or.inr (List.mem_cons_of_mem _ old)
      · rcases List.mem_cons.mp member with same | deeper
        · exact Or.inr (by simp [same])
        · exact (ih deeper).imp_right (List.mem_cons_of_mem _)

/-- The messages of a list have increasing numbers. -/
def Message.Increasing (messages : List Message) : Prop :=
  messages.Pairwise fun earlier later => earlier.id < later.id

namespace Message.Increasing

theorem nil : Increasing [] := List.Pairwise.nil

theorem snoc {messages : List Message} (increasing : Increasing messages) {message : Message}
    (above : ∀ other ∈ messages, other.id < message.id) : Increasing (messages ++ [message]) := by
  refine List.pairwise_append.mpr ⟨increasing, List.pairwise_singleton _ _, ?_⟩
  intro earlier member later last
  rw [List.mem_singleton.mp last]
  exact above earlier member

theorem newest {messages : List Message} (increasing : Increasing messages) (limit : Nat) :
    Increasing (Channel.newest limit messages) :=
  increasing.sublist (List.drop_sublist _ _)

end Message.Increasing

namespace Archive

theorem compare_toNat (first second : UInt64) :
    compare first.toNat second.toNat = compare first second := by
  rcases Nat.lt_trichotomy first.toNat second.toNat with less | same | more
  · rw [Nat.compare_eq_lt.mpr less, Std.compare_eq_lt.mpr (UInt64.lt_iff_toNat_lt.mpr less)]
  · rw [Nat.compare_eq_eq.mpr same, UInt64.toNat_inj.mp same, Std.ReflOrd.compare_self]
  · rw [Nat.compare_eq_gt.mpr more, Std.compare_eq_gt.mpr (UInt64.lt_iff_toNat_lt.mpr more)]

/-- The keys of records are in the order of message numbers. -/
theorem compare_messageKey (first second : UInt64) :
    compare (Tables.messageKey first) (Tables.messageKey second) = compare first second := by
  rw [Tables.messageKey, Tables.messageKey,
    Bytes.compare_bigEndian 8 first.toNat_lt second.toNat_lt, compare_toNat]

/-- Put a message among others in the order of numbers, in place of one with the same number. -/
def place (message : Message) : List Message → List Message
  | [] => [message]
  | other :: rest =>
      if message.id < other.id then message :: other :: rest
      else if message.id = other.id then message :: rest
      else other :: place message rest

theorem mem_place {message other : Message} {messages : List Message}
    (member : other ∈ place message messages) : other = message ∨ other ∈ messages := by
  induction messages with
  | nil => simpa [place] using member
  | cons head rest ih =>
      rw [place] at member
      split at member
      · simpa using member
      · split at member
        · rcases List.mem_cons.mp member with same | old
          · exact Or.inl same
          · exact Or.inr (List.mem_cons_of_mem _ old)
        · rcases List.mem_cons.mp member with same | deeper
          · exact Or.inr (by simp [same])
          · exact (ih deeper).imp_right (List.mem_cons_of_mem _)

theorem increasing_place {messages : List Message} (increasing : Message.Increasing messages)
    (message : Message) : Message.Increasing (place message messages) := by
  induction messages with
  | nil => exact List.pairwise_singleton _ _
  | cons head rest ih =>
      rcases List.pairwise_cons.mp increasing with ⟨headBelow, restIncreasing⟩
      rw [place]
      split
      case isTrue below =>
        refine List.Pairwise.cons (fun other member => ?_) increasing
        rcases List.mem_cons.mp member with rfl | old
        · exact below
        · exact UInt64.lt_trans below (headBelow other old)
      case isFalse notBelow =>
        split
        case isTrue same =>
          exact List.Pairwise.cons (fun other member => same ▸ headBelow other member)
            restIncreasing
        case isFalse differ =>
          have above : head.id < message.id :=
            UInt64.lt_of_le_of_ne (UInt64.not_lt.mp notBelow) (Ne.symm differ)
          refine List.Pairwise.cons (fun other member => ?_) (ih restIncreasing)
          rcases mem_place member with rfl | old
          · exact above
          · exact headBelow other old

/-- A message with a number above all others is placed last. -/
theorem place_of_forall_lt {message : Message} {messages : List Message}
    (above : ∀ other ∈ messages, other.id < message.id) :
    place message messages = messages ++ [message] := by
  induction messages with
  | nil => rfl
  | cons head rest ih =>
      have headBelow : head.id < message.id := above head (by simp)
      rw [place, if_neg (UInt64.lt_asymm headBelow), if_neg (UInt64.ne_of_lt headBelow).symm,
        ih fun other member => above other (List.mem_cons_of_mem _ member)]
      rfl

/-- A table whose keys are in the order of numbers puts the entry of a message where it is placed. -/
theorem insertInto_map {κ ν : Type} [Ord κ] (key : UInt64 → κ) (value : Message → ν)
    (monotone : ∀ first second, compare (key first) (key second) = compare first second)
    (message : Message) (messages : List Message) :
    SortedTable.insertInto (key message.id) (value message)
        (messages.map fun other => (key other.id, value other)) =
      (place message messages).map fun other => (key other.id, value other) := by
  induction messages with
  | nil => rfl
  | cons head rest ih =>
      rw [List.map_cons, SortedTable.insertInto, place]
      simp only [monotone]
      by_cases below : message.id < head.id
      · simp only [Std.compare_eq_lt.mpr below, if_pos below, List.map_cons]
      · by_cases same : message.id = head.id
        · simp only [same, Std.ReflOrd.compare_self, if_neg (UInt64.lt_irrefl head.id), if_true,
            List.map_cons]
        · have above : head.id < message.id :=
            UInt64.lt_of_le_of_ne (UInt64.not_lt.mp below) (Ne.symm same)
          simp only [Std.compare_eq_gt.mpr above, if_neg below, if_neg same, List.map_cons, ih]

theorem mem_of_mem_newest {limit : Nat} {message : Message} {messages : List Message}
    (member : message ∈ Channel.newest limit messages) : message ∈ messages :=
  List.mem_of_mem_drop member

theorem keepLast_map {κ ν : Type} (entry : Message → κ × ν) (keep : Nat)
    (messages : List Message) :
    (SortedTable.keepLast ⟨messages.map entry⟩ keep).entries =
      (Channel.newest keep messages).map entry := by
  simp [SortedTable.keepLast, Channel.newest, List.map_drop]

end Archive

end FrameChat
