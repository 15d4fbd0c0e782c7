import FrameChat.Proofs.Archive.Deposits
import Mathlib.Data.List.Pairwise

/-!
# Channels by their last activity

The channels that were active last are asked for newest first.  In memory the
index is in the order of times, and so is the answer.  In byte tables the index is
in the order of the bits of times, where times before the epoch come after all
others: there the answer is newest first exactly if no channel was last active
before the epoch, or all of them were.

* `newest_first_cases`: in memory always, in byte tables in exactly this case.
* `tables_list_past_first`: a channel that was active before the epoch is listed
  in front of one that was active after it.
-/

namespace FrameChat.Archive

/--
For every limit the times of the answer never increase, and no channel that is left
out was active later than one that is listed.
-/
def Backend.NewestFirst (backend : Backend) : Prop :=
  ∀ limit, ∃ answer, backend.recent limit = .ok answer ∧
    answer.Pairwise (fun earlier later => later.2 ≤ earlier.2) ∧
    ∀ channel time, backend.lastActive channel = .ok (some time) → (channel, time) ∉ answer →
      ∀ listed ∈ answer, time ≤ listed.2

/-- Of two activities in the order of times and names the first is not the later. -/
theorem time_le_of_compare_lt {first second : Activity} (below : compare first second = .lt) :
    first.time ≤ second.time := by
  rw [compare_activity, Ordering.then_eq_lt] at below
  rcases below with less | ⟨same, -⟩
  · exact Int64.le_of_lt (Std.compare_eq_lt.mp less)
  · rw [Std.compare_eq_iff_eq.mp same]
    exact Int64.le_refl _

namespace Listing

variable {order : Activity → Activity → Ordering} {actives : Actives} {index : List Activity}

/-- Of two listed activities one stands before the other, in the order of the listing. -/
theorem before_or_after {before : Activity → Activity → Prop} (listing : Listing order actives index)
    (related : index.Pairwise before) {first second : Activity} (firstMember : first ∈ index)
    (secondMember : second ∈ index) (differ : first ≠ second) :
    (order first second = .lt ∧ before first second) ∨
      (order second first = .lt ∧ before second first) := by
  let either (one other : Activity) : Prop :=
    (order one other = .lt ∧ before one other) ∨ (order other one = .lt ∧ before other one)
  have symmetric : Std.Symm either := ⟨fun _ _ => Or.symm⟩
  have pairs : index.Pairwise either := (listing.ordered.and related).imp Or.inl
  exact pairs.forall firstMember secondMember differ

/-- A listing in the order of keys is one in the order of times exactly if all times have one sign. -/
theorem times_increase_iff (listing : Listing (compareOn Activity.key) actives index) :
    index.Pairwise (fun earlier later => earlier.time ≤ later.time) ↔
      ∀ past ∈ index, ∀ present ∈ index, past.time < 0 → present.time < 0 := by
  constructor
  · intro increase past pastMember present presentMember negative
    by_contra other
    have keys : compareOn Activity.key present past = .lt := compare_key_of_neg other negative
    have differ : present ≠ past := fun same => other (same ▸ negative)
    rcases listing.before_or_after increase presentMember pastMember differ with
      ⟨-, times⟩ | ⟨above, -⟩
    · exact other (Int64.lt_of_le_of_lt times negative)
    · have converse : compareOn Activity.key past present =
          (compareOn Activity.key present past).swap := Std.OrientedCmp.eq_swap
      rw [above, keys] at converse
      cases converse
  · intro oneSign
    refine listing.ordered.imp_of_mem fun {earlier later} first second below => ?_
    apply time_le_of_compare_lt
    rw [← compare_key_of_sameSign ⟨oneSign earlier first later second,
      oneSign later second earlier first⟩]
    exact below

end Listing

/-- An archive lists newest first exactly if its index is in the order of times. -/
theorem Backend.newestFirst_iff {backend : Backend} {actives : Actives} {index : List Activity}
    (listing : Listing backend.order actives index)
    (recent : ∀ limit, backend.recent limit = .ok (latest limit index))
    (lastActive : ∀ channel, backend.lastActive channel = .ok (actives channel)) :
    backend.NewestFirst ↔ index.Pairwise fun earlier later => earlier.time ≤ later.time := by
  constructor
  · intro newestFirst
    rcases newestFirst index.length with ⟨answer, answered, decrease, -⟩
    rw [recent, Except.ok.injEq] at answered
    subst answered
    rw [latest, ← List.length_reverse, List.take_length, List.pairwise_map,
      List.pairwise_reverse] at decrease
    exact decrease
  · intro increase limit
    refine ⟨latest limit index, recent limit, ?_, ?_⟩
    · rw [latest, List.pairwise_map]
      exact (List.pairwise_reverse.mpr increase).sublist (List.take_sublist limit _)
    · intro channel time known left listed member
      rw [lastActive, Except.ok.injEq] at known
      have present := List.mem_reverse.mpr ((listing.exact ⟨time, channel⟩).mpr known)
      have decrease := List.pairwise_reverse.mpr increase
      rw [← List.take_append_drop limit index.reverse] at present decrease
      rcases List.mem_map.mp member with ⟨activity, taken, rfl⟩
      rcases List.mem_append.mp present with front | back
      · exact absurd (List.mem_map.mpr ⟨_, front, rfl⟩) left
      · exact (List.pairwise_append.mp decrease).2.2 activity taken _ back

/--
After any appends, an archive in memory lists channels newest first.  One of byte
tables does so exactly if there are not both a channel that was last active before
the epoch and one that was last active after it.
-/
theorem newest_first_cases (deposits : List Deposit) :
    ∃ memory tables : Backend,
      (Backend.memory Memory.empty).depositAll deposits = .ok memory ∧
      (Backend.tables Tables.empty).depositAll deposits = .ok tables ∧
      memory.NewestFirst ∧
      (tables.NewestFirst ↔
        ¬∃ past present earlier later,
          tables.lastActive past = .ok (some earlier) ∧ earlier < 0 ∧
          tables.lastActive present = .ok (some later) ∧ 0 ≤ later) := by
  rcases Backend.exists_depositAll .memory deposits with
    ⟨memory, inMemory, memoryOrder, memoryReflects⟩
  rcases Backend.exists_depositAll .tables deposits with
    ⟨tables, inTables, tablesOrder, tablesReflects⟩
  refine ⟨memory, tables, inMemory, inTables, ?_, ?_⟩
  · rcases memoryReflects.exists_listing with ⟨index, listing, recent, -⟩
    rw [Backend.newestFirst_iff listing recent memoryReflects.lastActive]
    rw [memoryOrder] at listing
    exact listing.ordered.imp time_le_of_compare_lt
  · rcases tablesReflects.exists_listing with ⟨index, listing, recent, -⟩
    rw [Backend.newestFirst_iff listing recent tablesReflects.lastActive]
    rw [tablesOrder] at listing
    rw [listing.times_increase_iff]
    simp only [tablesReflects.lastActive, Except.ok.injEq]
    constructor
    · rintro oneSign ⟨past, present, earlier, later, pastActive, negative, presentActive, nonneg⟩
      exact Int64.not_lt.mpr nonneg (oneSign ⟨earlier, past⟩ ((listing.exact _).mpr pastActive)
        ⟨later, present⟩ ((listing.exact _).mpr presentActive) negative)
    · intro none past pastMember present presentMember negative
      by_contra other
      exact none ⟨past.channel, present.channel, past.time, present.time,
        (listing.exact past).mp pastMember, negative,
        (listing.exact present).mp presentMember, Int64.not_lt.mp other⟩

/-- One channel that was active a second before the epoch, and one after it. -/
def straddlingDeposits : List Deposit :=
  [⟨"past", ⟨1, "ada", 0, .text, "early"⟩, -1, 10⟩,
    ⟨"present", ⟨2, "ada", 0, .text, "late"⟩, 5, 10⟩]

/-- In byte tables the channel that was active before the epoch comes first. -/
theorem tables_list_past_first :
    ∃ tables : Backend,
      (Backend.tables Tables.empty).depositAll straddlingDeposits = .ok tables ∧
      tables.recent 2 = .ok [("past", -1), ("present", 5)] ∧
      ¬tables.NewestFirst := by
  rcases Backend.exists_depositAll .tables straddlingDeposits with ⟨tables, inTables, -, -⟩
  have answer : tables.recent 2 = .ok [("past", -1), ("present", 5)] := by
    have evaluated : ((Backend.tables Tables.empty).depositAll straddlingDeposits).bind
        (·.recent 2) = .ok [("past", -1), ("present", 5)] := by decide +kernel
    rw [inTables] at evaluated
    exact evaluated
  refine ⟨tables, inTables, answer, fun newestFirst => ?_⟩
  rcases newestFirst 2 with ⟨listed, recent, decrease, -⟩
  rw [answer, Except.ok.injEq] at recent
  subst recent
  exact absurd decrease (by decide)

end FrameChat.Archive
