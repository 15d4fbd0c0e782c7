import FrameChat.Proofs.Archive.Deposits
import Mathlib.Data.List.Dedup

/-!
# Each channel once in the index

An archive finds the old entry of a channel in its index by time from the activity
that it has noted elsewhere.  If the two ever disagreed, an entry would stay in the
index for good.  They do not: after any appends, with any times, the index has one
entry for each channel that was ever written to, with the time of its last append.

* `activesAfter_eq`: the last activity of a channel is that of the last append to it.
* `indexed_once`: what the index has, how many channels there are, and that an
  append to one channel leaves the others alone.
-/

namespace FrameChat.Archive

/-! ## The last append to a channel -/

/-- The last deposit that is for a channel. -/
def lastInto (channel : String) (deposits : List Deposit) : Option Deposit :=
  (deposits.filter fun deposit => deposit.channel = channel).getLast?

theorem lastInto_snoc (channel : String) (deposits : List Deposit) (deposit : Deposit) :
    lastInto channel (deposits ++ [deposit]) =
      if deposit.channel = channel then some deposit else lastInto channel deposits := by
  rw [lastInto, getLast?_filter_snoc, lastInto]
  simp only [decide_eq_true_eq]

theorem activesAfter_snoc (deposits : List Deposit) (deposit : Deposit) :
    activesAfter (deposits ++ [deposit]) =
      (activesAfter deposits).note deposit.channel deposit.active := by
  rw [activesAfter, List.foldl_append]
  rfl

/-- The last activity of a channel is that of the last deposit for it. -/
theorem activesAfter_eq (deposits : List Deposit) (channel : String) :
    activesAfter deposits channel = (lastInto channel deposits).map Deposit.active := by
  induction deposits using List.reverseRecOn with
  | nil => rfl
  | append_singleton earlier deposit ih =>
      rw [activesAfter_snoc, lastInto_snoc, Actives.note, Function.update_apply, ih]
      by_cases here : deposit.channel = channel
      · rw [if_pos here, if_pos here.symm, Option.map_some]
      · rw [if_neg here, if_neg (Ne.symm here)]

/-- A channel has a last activity if it was ever written to. -/
theorem exists_active_iff {deposits : List Deposit} {channel : String} :
    (∃ time, activesAfter deposits channel = some time) ↔
      channel ∈ deposits.map Deposit.channel := by
  rw [activesAfter_eq, List.mem_map]
  constructor
  · rintro ⟨time, known⟩
    rcases Option.map_eq_some_iff.mp known with ⟨deposit, last, -⟩
    rcases mem_of_getLast?_filter last with ⟨member, here⟩
    exact ⟨deposit, member, of_decide_eq_true here⟩
  · rintro ⟨deposit, member, rfl⟩
    obtain ⟨last, found⟩ : ∃ last, lastInto deposit.channel deposits = some last :=
      exists_getLast?_filter member (decide_eq_true rfl)
    exact ⟨last.active, congrArg (Option.map Deposit.active) found⟩

namespace Backend

/-- The records of a channel as they are stored, in the order of their numbers. -/
def records : Backend → String → List Bytes
  | .memory held, channel => (held.bucket channel).values
  | .tables held, channel => (held.table (Tables.bucketTable channel)).values

/-- The index by time has exactly the entries of some activities, in this order. -/
def HasIndex : Backend → List Activity → Prop
  | .memory held, index => held.recency.entries = index.map fun activity => (activity, ())
  | .tables held, index =>
      (held.table Tables.recencyTable).entries = index.map fun activity => (activity.key, [])

variable {backend : Backend} {contents : Contents} {actives : Actives}

theorem Holds.records (holds : backend.Holds contents) (channel : String) :
    backend.records channel = (contents channel).map Message.Record.encode := by
  cases backend with
  | memory held => exact Memory.Holds.values holds channel
  | tables held => exact Tables.Holds.values holds channel

/-- The index by time has the last activities, each one once. -/
theorem Reflects.exists_index (reflects : backend.Reflects contents actives) :
    ∃ index, backend.HasIndex index ∧ Listing backend.order actives index := by
  cases backend with
  | memory held =>
      have remembers : held.Remembers actives := reflects.remembers
      exact remembers.index.exists_listing Function.injective_id
  | tables held =>
      have remembers : held.Remembers actives := reflects.remembers
      exact remembers.index.exists_listing key_injective

/-- There are as many channels as there are names that something was written to. -/
theorem Reflects.channelCount {deposits : List Deposit}
    (reflects : backend.Reflects contents (activesAfter deposits)) :
    backend.channelCount = .ok (deposits.map Deposit.channel).dedup.length := by
  rcases reflects.exists_listing with ⟨index, listing, -, count⟩
  have active (channel : String) : channel ∈ (deposits.map Deposit.channel).dedup ↔
      ∃ other time, channel = id other ∧ activesAfter deposits other = some time := by
    rw [List.mem_dedup, ← exists_active_iff]
    simp
  rw [count, listing.length_eq Function.injective_id (List.nodup_dedup _) active]

/-- An append to one channel changes neither what is stored nor what is known of another. -/
structure Leaves (before after : Backend) (channel : String) : Prop where
  records : after.records channel = before.records channel
  load : after.load channel = before.load channel
  lastActive : after.lastActive channel = before.lastActive channel

theorem Reflects.leaves {next : Backend} {channel other : String} {message : Message}
    {active : Seconds} {keep : Nat} (reflects : backend.Reflects contents actives)
    (nextReflects : next.Reflects (contents.add channel message keep) (actives.note channel active))
    (differ : other ≠ channel) : backend.Leaves next other := by
  have sameContents := contents.add_of_ne differ message keep
  constructor
  case records => rw [nextReflects.holds.records, reflects.holds.records, sameContents]
  case load =>
    rw [nextReflects.holds.load_eq_decodeAll, reflects.holds.load_eq_decodeAll, sameContents]
  case lastActive =>
    rw [nextReflects.lastActive, reflects.lastActive, Actives.note, Function.update_of_ne differ]

end Backend

/--
After any appends, to whatever channels and with whatever times, the index by time
has exactly one entry for each channel that was written to and none for another.  The
time of the entry is that of the last append to the channel, and the archive knows it
as the last activity of the channel.  As many channels are counted, and a further
append to one channel leaves all others alone.
-/
theorem indexed_once {backend : Backend} (blank : backend.Blank) (deposits : List Deposit) :
    ∃ final index, backend.depositAll deposits = .ok final ∧ final.HasIndex index ∧
      (index.map Activity.channel).Nodup ∧
      (∀ channel, channel ∈ index.map Activity.channel ↔
        channel ∈ deposits.map Deposit.channel) ∧
      (∀ activity ∈ index,
        (lastInto activity.channel deposits).map Deposit.active = some activity.time ∧
          final.lastActive activity.channel = .ok (some activity.time)) ∧
      (∀ channel,
        final.lastActive channel = .ok ((lastInto channel deposits).map Deposit.active)) ∧
      final.channelCount = .ok (deposits.map Deposit.channel).dedup.length ∧
      ∀ deposit : Deposit, ∃ next,
        final.append deposit.channel deposit.message deposit.active deposit.keep = .ok next ∧
          ∀ other, other ≠ deposit.channel → final.Leaves next other := by
  rcases Backend.exists_depositAll blank deposits with ⟨final, deposited, -, reflects⟩
  rcases reflects.exists_index with ⟨index, hasIndex, listing⟩
  refine ⟨final, index, deposited, hasIndex, listing.nodup_channels, fun channel => ?_,
    fun activity member => ?_, fun channel => ?_, reflects.channelCount, fun deposit => ?_⟩
  · rw [listing.mem_channels, exists_active_iff]
  · have known := (listing.exact activity).mp member
    rw [reflects.lastActive, ← activesAfter_eq, known]
    exact ⟨rfl, rfl⟩
  · rw [reflects.lastActive, activesAfter_eq]
  · rcases reflects.append deposit.channel deposit.message deposit.active deposit.keep with
      ⟨next, appended, -, nextReflects⟩
    exact ⟨next, appended, fun other differ => reflects.leaves nextReflects differ⟩

/-- Times come again, step back and lie before the epoch, and one channel begins like another. -/
def wanderingDeposits : List Deposit :=
  [⟨"a", ⟨1, "ada", 0, .text, "one"⟩, 5, 10⟩,
    ⟨"ab", ⟨2, "ada", 0, .text, "two"⟩, 5, 0⟩,
    ⟨"a", ⟨3, "ada", 0, .text, "three"⟩, 5, 10⟩,
    ⟨"a", ⟨4, "ada", 0, .text, "four"⟩, -2, 1⟩]

theorem indexed_once_after_wandering :
    Backend.Blank (.tables Tables.empty) ∧
      ∃ final index, (Backend.tables Tables.empty).depositAll wanderingDeposits = .ok final ∧
        final.HasIndex index ∧ (index.map Activity.channel).Nodup ∧
        (∀ channel, channel ∈ index.map Activity.channel ↔ channel = "a" ∨ channel = "ab") ∧
        final.lastActive "a" = .ok (some (-2)) ∧ final.lastActive "ab" = .ok (some 5) ∧
        final.channelCount = .ok 2 := by
  rcases indexed_once .tables wanderingDeposits with
    ⟨final, index, deposited, hasIndex, distinct, channels, -, lastActive, count, -⟩
  refine ⟨.tables, final, index, deposited, hasIndex, distinct, fun channel => ?_,
    lastActive "a", lastActive "ab", count⟩
  rw [channels]
  simp [wanderingDeposits, or_comm]

end FrameChat.Archive
