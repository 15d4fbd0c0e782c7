import FrameChat.Proofs.Archive.Deposits

/-!
# The two archives answer alike

An archive in memory and one of byte tables keep their entries in quite different
ways: numbers and names stand against big-endian bytes and UTF-8, a map of maps
against tables by name.  Whoever only appends and asks cannot tell them apart, as
long as no activity lies before the epoch.

* `backends_agree`: after the same appends both give the same answers.
-/

namespace FrameChat.Archive

/-- Two archives give the same answer to everything that can be asked. -/
structure Backend.Agrees (first second : Backend) : Prop where
  load : ∀ channel, first.load channel = second.load channel
  lastActive : ∀ channel, first.lastActive channel = second.lastActive channel
  recent : ∀ limit, first.recent limit = second.recent limit
  channelCount : first.channelCount = second.channelCount

/-- Archives that reflect the same agree, whatever they are made of, if no activity is negative. -/
theorem Backend.Reflects.agrees {first second : Backend} {contents : Contents} {actives : Actives}
    (firstReflects : first.Reflects contents actives)
    (secondReflects : second.Reflects contents actives)
    (sound : ∀ channel time, actives channel = some time → 0 ≤ time) :
    first.Agrees second := by
  rcases firstReflects.exists_listing with ⟨index, listing, recent, count⟩
  rcases secondReflects.exists_listing with ⟨otherIndex, otherListing, otherRecent, otherCount⟩
  have nonneg (activity : Activity) (member : activity ∈ index) : 0 ≤ activity.time :=
    sound activity.channel activity.time ((listing.exact activity).mp member)
  have order_eq (backend : Backend) {left right : Activity} (leftSound : 0 ≤ left.time)
      (rightSound : 0 ≤ right.time) : backend.order left right = compare left right := by
    cases backend with
    | memory held => rfl
    | tables held =>
        exact compare_key_of_sameSign
          (iff_of_false (Int64.not_lt.mpr leftSound) (Int64.not_lt.mpr rightSound))
  have same : index = otherIndex := by
    refine listing.unique otherListing fun left leftMember right rightMember => ?_
    rw [order_eq first (nonneg left leftMember) (nonneg right rightMember),
      order_eq second (nonneg left leftMember) (nonneg right rightMember)]
  subst same
  constructor
  case load =>
    intro channel
    rw [firstReflects.holds.load_eq_decodeAll, secondReflects.holds.load_eq_decodeAll]
  case lastActive =>
    intro channel
    rw [firstReflects.lastActive, secondReflects.lastActive]
  case recent =>
    intro limit
    rw [recent, otherRecent]
  case channelCount =>
    rw [count, otherCount]

/--
Any appends of whatever messages to whatever channels, with any limits on what is
kept and with activities from the epoch on, succeed in memory and in byte tables,
and afterwards both archives give the same answers.
-/
theorem backends_agree (deposits : List Deposit)
    (sound : ∀ deposit ∈ deposits, 0 ≤ deposit.active) :
    ∃ memory tables : Backend,
      (Backend.memory Memory.empty).depositAll deposits = .ok memory ∧
      (Backend.tables Tables.empty).depositAll deposits = .ok tables ∧
      memory.Agrees tables ∧
      ((∀ deposit ∈ deposits, deposit.message.Fits) →
        ∀ channel, memory.load channel = .ok (contentsAfter deposits channel)) := by
  rcases Backend.exists_depositAll .memory deposits with ⟨memory, inMemory, -, memoryReflects⟩
  rcases Backend.exists_depositAll .tables deposits with ⟨tables, inTables, -, tablesReflects⟩
  refine ⟨memory, tables, inMemory, inTables, ?_, fun fits channel => ?_⟩
  · refine memoryReflects.agrees tablesReflects fun channel time known => ?_
    rcases exists_deposit_of_activesAfter known with ⟨deposit, member, rfl⟩
    exact sound deposit member
  · exact memoryReflects.holds.load ((sound_contentsAfter fits).fits channel)

/-- Channels without a name, with others as prefixes and beyond ASCII; numbers come again. -/
def entangledDeposits : List Deposit :=
  [⟨"", ⟨7, "ada", 5, .text, "first"⟩, 9, 3⟩,
    ⟨"é", ⟨2, "bo", 6, .text, "second"⟩, 4, 1⟩,
    ⟨"éa", ⟨2, "bo", 6, .join, ""⟩, 9, 0⟩,
    ⟨"é", ⟨1, "ada", 7, .text, "third"⟩, 9, 2⟩,
    ⟨"", ⟨7, "ada", 8, .text, "fourth"⟩, 0, 1⟩]

theorem backends_agree_on_entangled :
    (∀ deposit ∈ entangledDeposits, 0 ≤ deposit.active) ∧
      ∃ memory tables : Backend,
        (Backend.memory Memory.empty).depositAll entangledDeposits = .ok memory ∧
        (Backend.tables Tables.empty).depositAll entangledDeposits = .ok tables ∧
        memory.Agrees tables ∧
        tables.recent 2 = .ok [("éa", 9), ("é", 9)] ∧
        tables.load "" = .ok [⟨7, "ada", 8, .text, "fourth"⟩] := by
  have sound : ∀ deposit ∈ entangledDeposits, 0 ≤ deposit.active := by decide
  rcases backends_agree entangledDeposits sound with ⟨memory, tables, inMemory, inTables, agree, -⟩
  refine ⟨sound, memory, tables, inMemory, inTables, agree, ?_, ?_⟩
  · have answer : ((Backend.tables Tables.empty).depositAll entangledDeposits).bind (·.recent 2) =
        .ok [("éa", 9), ("é", 9)] := by decide +kernel
    rw [inTables] at answer
    exact answer
  · have answer : ((Backend.tables Tables.empty).depositAll entangledDeposits).bind (·.load "") =
        .ok [⟨7, "ada", 8, .text, "fourth"⟩] := by decide +kernel
    rw [inTables] at answer
    exact answer

end FrameChat.Archive
