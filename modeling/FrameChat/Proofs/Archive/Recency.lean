import FrameChat.Archive
import FrameChat.Proofs.Archive.Contents
import FrameChat.Proofs.SortedTable
import FrameChat.Proofs.Text.Utf8Order
import Mathlib.Data.List.Nodup
import Mathlib.Data.Set.List
import Mathlib.Logic.Function.Basic

/-!
# What an archive remembers of activity

An archive keeps, for each channel, the time of its last activity, and besides an
index of these activities by time.  An index `Indexes` the last activities if it
is sorted and has exactly one entry for each channel, which is that of its last
activity; an append takes one entry out and puts one in, and the index stays so.

The index in memory is in the order of times and names.  The index of byte tables
is in the order of its keys, which is that of the bits of times and of names
(`compare_key`).  Times of one sign have the order of their bits
(`compare_toUInt64`), but the bits of a negative time are above those of every
other time (`compare_key_of_neg`).

* `Memory.Remembers.append`, `Tables.Remembers.append`: what an append does to
  what is remembered.
* `Indexes.exists_listing`: an index lists the last activities, each one once.
* `Listing.unique`: two listings are one if their orders agree on what is listed.
-/

namespace FrameChat.Archive

/-! ## Orders of activities -/

theorem compare_activity (first second : Activity) :
    compare first second =
      (compare first.time second.time).then (compare first.channel second.channel) := rfl

instance : Std.TransOrd Activity :=
  inferInstanceAs (Std.TransCmp (compareLex (compareOn Activity.time) (compareOn Activity.channel)))

theorem then_compare_eq_iff {κ : Type} [Ord κ] [Std.LawfulEqOrd κ] {first second : κ}
    {left right : String} :
    (compare first second).then (compare left right) = .eq ↔ first = second ∧ left = right := by
  rw [Ordering.then_eq_eq, Std.compare_eq_iff_eq, Std.compare_eq_iff_eq]

instance : Std.LawfulEqOrd Activity where
  eq_of_compare := by
    intro first second same
    rcases then_compare_eq_iff.mp (compare_activity first second ▸ same) with ⟨times, channels⟩
    cases first
    cases second
    cases times
    cases channels
    rfl

/-- The key of an activity in the index of byte tables. -/
def Activity.key (activity : Activity) : Bytes :=
  Tables.recencyKey activity.time activity.channel

/-- Keys are in the order of the bits of times, and of names where these agree. -/
theorem compare_key (first second : Activity) :
    compare first.key second.key =
      (compare first.time.toUInt64 second.time.toUInt64).then
        (compare first.channel second.channel) := by
  rw [Activity.key, Activity.key, Tables.recencyKey, Tables.recencyKey,
    Bytes.compare_append _ _ (by simp [Tables.timeBytes]), Bytes.compare_ofText, Tables.timeBytes,
    Tables.timeBytes, Bytes.compare_bigEndian 8 first.time.toUInt64.toNat_lt
      second.time.toUInt64.toNat_lt, compare_toNat]

theorem key_injective : Function.Injective Activity.key := by
  intro first second same
  have equal : compare first.key second.key = .eq := Std.compare_eq_iff_eq.mpr same
  rw [compare_key] at equal
  rcases then_compare_eq_iff.mp equal with ⟨bits, channels⟩
  have times : first.time = second.time := by
    rw [← Int64.toInt64_toUInt64 first.time, bits, Int64.toInt64_toUInt64]
  cases first
  cases second
  cases times
  cases channels
  rfl

/-- A time is its bits, read as a number with a sign. -/
theorem toInt_seconds (time : Seconds) :
    time.toInt =
      if 2 * time.toUInt64.toNat < UInt64.size then (time.toUInt64.toNat : Int)
      else time.toUInt64.toNat - UInt64.size :=
  BitVec.toInt_eq_toNat_cond time.toBitVec

theorem compare_seconds (first second : Seconds) :
    compare first second = compare first.toInt second.toInt := by
  cases order : compare first.toInt second.toInt with
  | lt => exact Std.compare_eq_lt.mpr (Int64.lt_iff_toInt_lt.mpr (Std.compare_eq_lt.mp order))
  | eq => exact Std.compare_eq_iff_eq.mpr (Int64.toInt_inj.mp (Std.compare_eq_iff_eq.mp order))
  | gt => exact Std.compare_eq_gt.mpr (Int64.lt_iff_toInt_lt.mpr (Std.compare_eq_gt.mp order))

theorem seconds_neg_iff (time : Seconds) :
    time < 0 ↔ UInt64.size ≤ 2 * time.toUInt64.toNat := by
  have bound : time.toUInt64.toNat < UInt64.size := time.toUInt64.toNat_lt
  rw [Int64.lt_iff_toInt_lt, toInt_seconds, Int64.toInt_zero]
  split <;> omega

/-- Among times of one sign, the order of bits is the order of times. -/
theorem compare_toUInt64 {first second : Seconds} (sameSign : first < 0 ↔ second < 0) :
    compare first.toUInt64 second.toUInt64 = compare first second := by
  rw [seconds_neg_iff, seconds_neg_iff] at sameSign
  rw [← compare_toNat, compare_seconds, toInt_seconds, toInt_seconds]
  rcases Nat.lt_trichotomy first.toUInt64.toNat second.toUInt64.toNat with less | same | more
  · rw [Nat.compare_eq_lt.mpr less, eq_comm, Std.compare_eq_lt]
    split <;> split <;> omega
  · rw [same, Std.ReflOrd.compare_self, Std.ReflOrd.compare_self]
  · rw [Nat.compare_eq_gt.mpr more, eq_comm, Std.compare_eq_gt]
    split <;> split <;> omega

/-- Among activities with times of one sign, keys have the order of activities. -/
theorem compare_key_of_sameSign {first second : Activity}
    (sameSign : first.time < 0 ↔ second.time < 0) :
    compare first.key second.key = compare first second := by
  rw [compare_key, compare_activity, compare_toUInt64 sameSign]

/-- The key of an activity with a negative time is above that of every other. -/
theorem compare_key_of_neg {first second : Activity} (other : ¬first.time < 0)
    (negative : second.time < 0) : compare first.key second.key = .lt := by
  rw [seconds_neg_iff] at negative other
  have bits : first.time.toUInt64 < second.time.toUInt64 :=
    UInt64.lt_iff_toNat_lt.mpr (by omega)
  rw [compare_key, Std.compare_eq_lt.mpr bits, Ordering.lt_then]

/-! ## Indexes -/

/-- When each channel was last active. -/
abbrev Actives := String → Option Seconds

/--
A table lists, for each channel that was ever active, one activity, which is its
last; the activities stand under given keys.
-/
structure Indexes {κ ν : Type} [Ord κ] (key : Activity → κ) (value : ν) (table : SortedTable κ ν)
    (actives : Actives) : Prop where
  sorted : table.Sorted
  exact : ∀ entry, entry ∈ table.entries ↔
    ∃ activity : Activity, entry = (key activity, value) ∧
      actives activity.channel = some activity.time

/-- Note that a channel is active. -/
def Actives.note (actives : Actives) (channel : String) (time : Seconds) : Actives :=
  Function.update actives channel (some time)

theorem Actives.note_eq_some_iff {actives : Actives} {channel other : String}
    {time found : Seconds} :
    actives.note channel time other = some found ↔
      (other = channel ∧ found = time) ∨ (other ≠ channel ∧ actives other = some found) := by
  rw [note, Function.update_apply]
  split
  case isTrue same => simp [same, eq_comm]
  case isFalse differ => simp [differ]

/-- All last activities, each one once, in a given order. -/
structure Listing (order : Activity → Activity → Ordering) (actives : Actives)
    (index : List Activity) : Prop where
  ordered : index.Pairwise fun earlier later => order earlier later = .lt
  exact : ∀ activity, activity ∈ index ↔ actives activity.channel = some activity.time

namespace Listing

variable {order other : Activity → Activity → Ordering} {actives : Actives}
  {index : List Activity}

theorem nodup [Std.ReflCmp order] (listing : Listing order actives index) : index.Nodup := by
  refine listing.ordered.imp fun {earlier later} below => ?_
  rintro rfl
  have self : order earlier earlier = .eq := Std.ReflCmp.compare_self
  rw [self] at below
  cases below

/-- A channel is listed once. -/
theorem nodup_channels [Std.ReflCmp order] (listing : Listing order actives index) :
    (index.map Activity.channel).Nodup := by
  refine listing.nodup.map_on fun first present second also same => ?_
  have firstTime := (listing.exact first).mp present
  have secondTime := (listing.exact second).mp also
  rw [same, secondTime] at firstTime
  cases first
  cases second
  cases firstTime
  cases same
  rfl

theorem mem_channels (listing : Listing order actives index) (channel : String) :
    channel ∈ index.map Activity.channel ↔ ∃ time, actives channel = some time := by
  rw [List.mem_map]
  constructor
  · rintro ⟨activity, present, rfl⟩
    exact ⟨activity.time, (listing.exact activity).mp present⟩
  · rintro ⟨time, known⟩
    exact ⟨⟨time, channel⟩, (listing.exact ⟨time, channel⟩).mpr known, rfl⟩

/-- Other names of the same channels, each one once, are as many as the activities. -/
theorem length_eq {α : Type} [Std.ReflCmp order] {name : String → α} (listing : Listing order actives index)
    (injective : Function.Injective name) {names : List α} (nodup : names.Nodup)
    (exact : ∀ entry, entry ∈ names ↔ ∃ channel time, entry = name channel ∧
      actives channel = some time) :
    names.length = index.length := by
  have same : names.Perm ((index.map Activity.channel).map name) := by
    rw [List.perm_ext_iff_of_nodup nodup (listing.nodup_channels.map injective)]
    intro entry
    rw [exact, List.mem_map]
    constructor
    · rintro ⟨channel, time, rfl, known⟩
      exact ⟨channel, (listing.mem_channels channel).mpr ⟨time, known⟩, rfl⟩
    · rintro ⟨channel, present, rfl⟩
      rcases (listing.mem_channels channel).mp present with ⟨time, known⟩
      exact ⟨channel, time, rfl, known⟩
  rw [same.length_eq, List.length_map, List.length_map]

/-- Two listings are one if their orders agree on what is listed. -/
theorem unique [Std.TransCmp order] {otherIndex : List Activity}
    [Std.ReflCmp other] (listing : Listing order actives index)
    (otherListing : Listing other actives otherIndex)
    (agree : ∀ first ∈ index, ∀ second ∈ index, order first second = other first second) :
    index = otherIndex := by
  have same : index.Perm otherIndex := by
    rw [List.perm_ext_iff_of_nodup listing.nodup otherListing.nodup]
    intro activity
    rw [listing.exact, otherListing.exact]
  have reordered : otherIndex.Pairwise fun earlier later => order earlier later = .lt := by
    refine otherListing.ordered.imp_of_mem fun {earlier later} first second below => ?_
    rw [agree earlier (same.mem_iff.mpr first) later (same.mem_iff.mpr second)]
    exact below
  refine same.eq_of_pairwise (fun first second _ _ below above => ?_) listing.ordered reordered
  have converse : order second first = (order first second).swap := Std.OrientedCmp.eq_swap
  rw [below, above] at converse
  cases converse

end Listing

section Indexing

variable {κ ν : Type} [Ord κ] [Std.TransOrd κ] [Std.LawfulEqOrd κ]
  {key : Activity → κ} {value : ν} {table : SortedTable κ ν} {actives : Actives}

/-- Take the activity of a channel out of an index. -/
def withdraw (key : Activity → κ) (table : SortedTable κ ν) (channel : String) :
    Option Seconds → SortedTable κ ν
  | some previous => table.erase (key ⟨previous, channel⟩)
  | none => table

omit [Std.TransOrd κ] in
/-- An index without the activity of a channel has all that it had of the others. -/
theorem Indexes.mem_withdraw (indexes : Indexes key value table actives)
    (injective : Function.Injective key) (channel : String) (entry : κ × ν) :
    entry ∈ (withdraw key table channel (actives channel)).entries ↔
      ∃ activity : Activity, entry = (key activity, value) ∧
        activity.channel ≠ channel ∧ actives activity.channel = some activity.time := by
  cases last : actives channel with
  | none =>
      rw [withdraw, indexes.exact]
      constructor
      · rintro ⟨activity, rfl, known⟩
        refine ⟨activity, rfl, ?_, known⟩
        rintro rfl
        rw [last] at known
        cases known
      · rintro ⟨activity, same, -, known⟩
        exact ⟨activity, same, known⟩
  | some previous =>
      rw [withdraw, SortedTable.mem_erase, indexes.exact]
      constructor
      · rintro ⟨⟨activity, rfl, known⟩, differ⟩
        refine ⟨activity, rfl, ?_, known⟩
        rintro rfl
        rw [last] at known
        cases known
        exact differ rfl
      · rintro ⟨activity, rfl, other, known⟩
        refine ⟨⟨activity, rfl, known⟩, fun same => other ?_⟩
        rw [injective same]

/-- The index in which a channel has a new activity in place of its last one. -/
theorem Indexes.note (indexes : Indexes key value table actives)
    (injective : Function.Injective key) (channel : String) (time : Seconds) :
    Indexes key value
      ((withdraw key table channel (actives channel)).insert (key ⟨time, channel⟩) value)
      (actives.note channel time) := by
  have sorted : (withdraw key table channel (actives channel)).Sorted := by
    cases actives channel with
    | none => exact indexes.sorted
    | some previous => exact indexes.sorted.erase _
  refine ⟨sorted.insert _ _, fun entry => ?_⟩
  rw [sorted.mem_insert, indexes.mem_withdraw injective]
  constructor
  · rintro (rfl | ⟨⟨activity, rfl, other, known⟩, -⟩)
    · exact ⟨_, rfl, Actives.note_eq_some_iff.mpr (Or.inl ⟨rfl, rfl⟩)⟩
    · exact ⟨activity, rfl, Actives.note_eq_some_iff.mpr (Or.inr ⟨other, known⟩)⟩
  · rintro ⟨activity, rfl, known⟩
    rcases Actives.note_eq_some_iff.mp known with ⟨here, now⟩ | ⟨other, known⟩
    · left
      rw [← here, ← now]
    · refine Or.inr ⟨⟨activity, rfl, other, known⟩, fun same => other ?_⟩
      rw [injective same]

omit [Std.TransOrd κ] [Std.LawfulEqOrd κ] in
/-- The activities of an index are a listing in the order of its keys. -/
theorem Indexes.exists_listing (indexes : Indexes key value table actives)
    (injective : Function.Injective key) :
    ∃ index : List Activity,
      table.entries = index.map (fun activity => (key activity, value)) ∧
      Listing (compareOn key) actives index := by
  have listed : table.entries ∈ Set.range (List.map fun activity => (key activity, value)) := by
    rw [Set.range_list_map]
    intro entry member
    rcases (indexes.exact entry).mp member with ⟨activity, rfl, -⟩
    exact ⟨activity, rfl⟩
  rcases listed with ⟨index, entries⟩
  refine ⟨index, entries.symm, ?_, fun activity => ?_⟩
  · have sorted : table.entries.Pairwise _ := indexes.sorted
    rw [← entries, List.pairwise_map] at sorted
    exact sorted
  · have member : activity ∈ index ↔ (key activity, value) ∈ table.entries := by
      rw [← entries, List.mem_map]
      constructor
      · intro present
        exact ⟨activity, present, rfl⟩
      · rintro ⟨other, present, same⟩
        exact injective (congrArg Prod.fst same) ▸ present
    rw [member, indexes.exact]
    constructor
    · rintro ⟨other, same, known⟩
      rw [injective (congrArg Prod.fst same)]
      exact known
    · intro known
      exact ⟨activity, rfl, known⟩

end Indexing

/-! ## The two archives -/

namespace Memory

/-- A memory has the last activity of each channel, in its list and in its index. -/
structure Remembers (memory : Memory) (actives : Actives) : Prop where
  known : ∀ channel, memory.lastActive channel = actives channel
  distinct : (memory.active.map Prod.fst).Nodup
  index : Indexes id () memory.recency actives

theorem remembers_empty : empty.Remembers fun _ => none where
  known _ := rfl
  distinct := List.nodup_nil
  index := ⟨SortedTable.sorted_empty, fun entry => by simp [empty, SortedTable.empty]⟩

theorem Remembers.append {memory : Memory} {actives : Actives} (remembers : memory.Remembers actives)
    (channel : String) (message : Message) (time : Seconds) (keep : Nat) :
    (memory.append channel message time keep).Remembers (actives.note channel time) := by
  refine ⟨fun other => ?_, ?_, ?_⟩
  · show (put channel time memory.active).lookup other = _
    rw [put, lookup_replace, Actives.note, Function.update_apply]
    split
    · rfl
    · exact remembers.known other
  · show ((put channel time memory.active).map Prod.fst).Nodup
    rw [put, List.map_cons, List.nodup_cons]
    constructor
    · simp
    · exact remembers.distinct.sublist (List.filter_sublist.map Prod.fst)
  · have noted := remembers.index.note Function.injective_id channel time
    rw [← remembers.known] at noted
    have written : (memory.append channel message time keep).recency =
        (withdraw id memory.recency channel (memory.lastActive channel)).insert ⟨time, channel⟩ () := by
      rw [Memory.append]
      cases memory.lastActive channel <;> rfl
    exact written ▸ noted

end Memory

namespace Tables

theorem decodeTime_timeBytes (time : Seconds) : decodeTime (timeBytes time) = .ok time := by
  have bits : Bytes.ofBigEndian (timeBytes time) = time.toUInt64.toNat :=
    Bytes.ofBigEndian_bigEndian_of_lt time.toUInt64.toNat_lt
  rw [decodeTime, if_pos (by simp [timeBytes]), bits, UInt64.ofNat_toNat, Int64.toInt64_toUInt64]

/-- The key of an activity is read back. -/
theorem decodeRecencyKey_key (activity : Activity) :
    decodeRecencyKey activity.key = .ok (activity.channel, activity.time) := by
  have width : (timeBytes activity.time).length = 8 := by simp [timeBytes]
  have bytes : activity.key.length = 8 + (Bytes.ofText activity.channel).length := by
    simp [Activity.key, recencyKey, width]
  have front : activity.key.take 8 = timeBytes activity.time := by
    rw [Activity.key, recencyKey, ← width, List.take_left]
  have back : activity.key.drop 8 = Bytes.ofText activity.channel := by
    rw [Activity.key, recencyKey, ← width, List.drop_left]
  rw [decodeRecencyKey, if_neg (by omega), back, front, Bytes.text?_ofText, decodeTime_timeBytes]
  rfl

/-- Byte tables have the last activity of each channel under its name and in the index by time. -/
structure Remembers (tables : Tables) (actives : Actives) : Prop where
  sorted : (tables.table activityTable).Sorted
  known : ∀ entry, entry ∈ (tables.table activityTable).entries ↔
    ∃ channel time, entry = (Bytes.ofText channel, timeBytes time) ∧ actives channel = some time
  index : Indexes Activity.key [] (tables.table recencyTable) actives

theorem remembers_empty : empty.Remembers fun _ => none where
  sorted := SortedTable.sorted_empty
  known entry := by simp [empty, table, SortedTable.empty]
  index := ⟨SortedTable.sorted_empty, fun entry => by simp [empty, table, SortedTable.empty]⟩

theorem Remembers.lastActive {tables : Tables} {actives : Actives}
    (remembers : tables.Remembers actives) (channel : String) :
    tables.lastActive channel = .ok (actives channel) := by
  have found (bytes : Bytes) :
      (tables.table activityTable).get? (Bytes.ofText channel) = some bytes ↔
        ∃ time, bytes = timeBytes time ∧ actives channel = some time := by
    rw [remembers.sorted.get?_eq_some_iff, remembers.known]
    constructor
    · rintro ⟨other, time, same, active⟩
      rcases Prod.mk.inj same with ⟨names, rfl⟩
      exact ⟨time, rfl, Bytes.ofText_injective names ▸ active⟩
    · rintro ⟨time, rfl, active⟩
      exact ⟨channel, time, rfl, active⟩
  rw [Tables.lastActive]
  cases active : actives channel with
  | none =>
      cases get : (tables.table activityTable).get? (Bytes.ofText channel) with
      | none => rfl
      | some bytes =>
          rcases (found bytes).mp get with ⟨time, -, known⟩
          rw [active] at known
          cases known
  | some time =>
      rw [(found (timeBytes time)).mpr ⟨time, rfl, active⟩]
      show (decodeTime (timeBytes time)).map some = _
      rw [decodeTime_timeBytes]
      rfl

theorem recencyTable_append {tables next : Tables} {channel : String} {message : Message}
    {time : Seconds} {keep : Nat} {previous : Option Seconds}
    (read : tables.lastActive channel = .ok previous)
    (appended : tables.append channel message time keep = .ok next) :
    next.table recencyTable =
      (withdraw Activity.key (tables.table recencyTable) channel previous).insert
        (Activity.key ⟨time, channel⟩) [] := by
  rw [append, read] at appended
  simp only [bind, Except.bind, pure, Except.pure, Except.ok.injEq] at appended
  subst appended
  have notBucket := (bucketTable_ne_recencyTable channel).symm
  simp only [table, Memory.put, lookup_replace, notBucket, if_false, if_true, Option.getD_some]
  cases previous <;> rfl

theorem Remembers.append {tables next : Tables} {actives : Actives}
    (remembers : tables.Remembers actives) {channel : String} {message : Message}
    {time : Seconds} {keep : Nat}
    (appended : tables.append channel message time keep = .ok next) :
    next.Remembers (actives.note channel time) := by
  have activities := (table_append appended).2
  refine ⟨activities ▸ remembers.sorted.insert _ _, fun entry => ?_, ?_⟩
  · rw [activities, remembers.sorted.mem_insert, remembers.known]
    constructor
    · rintro (rfl | ⟨⟨other, found, rfl, known⟩, differ⟩)
      · exact ⟨channel, time, rfl, Actives.note_eq_some_iff.mpr (Or.inl ⟨rfl, rfl⟩)⟩
      · refine ⟨other, found, rfl, Actives.note_eq_some_iff.mpr (Or.inr ⟨?_, known⟩)⟩
        rintro rfl
        exact differ rfl
    · rintro ⟨other, found, rfl, known⟩
      rcases Actives.note_eq_some_iff.mp known with ⟨rfl, rfl⟩ | ⟨differ, known⟩
      · exact Or.inl rfl
      · exact Or.inr ⟨⟨other, found, rfl, known⟩, fun same => differ (Bytes.ofText_injective same)⟩
  · rw [recencyTable_append (remembers.lastActive channel) appended]
    exact remembers.index.note key_injective channel time

end Tables

end FrameChat.Archive
