import FrameChat.Archive
import FrameChat.Proofs.Archive.Order
import FrameChat.Proofs.Lookup
import FrameChat.Proofs.Message.RoundTrip
import Mathlib.Logic.Function.Basic

/-!
# What an archive holds

An archive holds, for each channel, a list of messages in the order of their
numbers.  In memory and in byte tables this list is laid out differently, but
both are given by `Backend.Holds`, and one operation is enough to say what an
append does to either: the message is placed, and the newest ones stay.

* `Backend.Holds.append`: an append succeeds, and changes the list of its
  channel only.
* `Backend.Holds.load`: a channel is loaded as the list that is held of it.
* `Backend.Written.holds`: whatever was written by appends alone is so laid out,
  with increasing numbers.
-/

namespace FrameChat.Archive

/-- The messages that are held of each channel. -/
abbrev Contents := String → List Message

namespace Contents

def none : Contents := fun _ => []

/-- Place a message among those of its channel and keep the newest. -/
def add (contents : Contents) (channel : String) (message : Message) (keep : Nat) : Contents :=
  Function.update contents channel (Channel.newest keep (place message (contents channel)))

@[simp]
theorem add_same (contents : Contents) (channel : String) (message : Message) (keep : Nat) :
    contents.add channel message keep channel =
      Channel.newest keep (place message (contents channel)) :=
  Function.update_self ..

theorem add_of_ne (contents : Contents) {channel other : String} (differ : other ≠ channel)
    (message : Message) (keep : Nat) :
    contents.add channel message keep other = contents other :=
  Function.update_of_ne differ ..

/-- Every channel has messages that fit, with increasing numbers. -/
structure Sound (contents : Contents) : Prop where
  increasing : ∀ channel, Message.Increasing (contents channel)
  fits : ∀ channel, ∀ message ∈ contents channel, message.Fits

theorem Sound.none : Contents.none.Sound :=
  ⟨fun _ => Message.Increasing.nil, fun _ _ member => nomatch member⟩

theorem Sound.add {contents : Contents} (sound : contents.Sound) (channel : String)
    {message : Message} (fits : message.Fits) (keep : Nat) :
    (contents.add channel message keep).Sound := by
  constructor
  · intro other
    by_cases same : other = channel
    · subst same
      rw [add_same]
      exact (increasing_place (sound.increasing other) message).newest keep
    · rw [add_of_ne contents same]
      exact sound.increasing other
  · intro other held member
    by_cases same : other = channel
    · subst same
      rw [add_same] at member
      rcases mem_place (mem_of_mem_newest member) with rfl | old
      · exact fits
      · exact sound.fits other held old
    · rw [add_of_ne contents same] at member
      exact sound.fits other held member

end Contents

/-- Where every entry is read, the whole list is. -/
theorem mapM_eq_ok {α β ε : Type} {read : α → Except ε β} {value : α → β} {entries : List α}
    (each : ∀ entry ∈ entries, read entry = .ok (value entry)) :
    entries.mapM read = .ok (entries.map value) := by
  induction entries with
  | nil => rfl
  | cons entry rest ih =>
      rw [List.mapM_cons, each entry (by simp),
        ih fun other member => each other (List.mem_cons_of_mem _ member)]
      rfl

theorem decodeAll_map_encode {messages : List Message}
    (fits : ∀ message ∈ messages, message.Fits) :
    Memory.decodeAll (messages.map Message.Record.encode) = .ok messages := by
  rw [Memory.decodeAll, List.mapM_map]
  refine (mapM_eq_ok fun message member => ?_).trans (by rw [List.map_id])
  rw [Function.comp_apply, Message.Record.decode_encode (fits message member)]
  rfl

namespace Memory

/-- The records of each channel stand under the numbers of their messages. -/
def Holds (memory : Memory) (contents : Contents) : Prop :=
  ∀ channel, (memory.bucket channel).entries =
    (contents channel).map fun message => (message.id, Message.Record.encode message)

theorem holds_empty : Memory.empty.Holds Contents.none :=
  fun _ => rfl

theorem bucket_append (memory : Memory) (channel : String) (message : Message)
    (active : Seconds) (keep : Nat) (other : String) :
    (memory.append channel message active keep).bucket other =
      if other = channel then
        ((memory.bucket channel).insert message.id (Message.Record.encode message)).keepLast keep
      else memory.bucket other := by
  simp only [append, bucket, put, lookup_replace]
  split <;> rfl

theorem Holds.append {memory : Memory} {contents : Contents} (holds : memory.Holds contents)
    (channel : String) (message : Message) (active : Seconds) (keep : Nat) :
    (memory.append channel message active keep).Holds (contents.add channel message keep) := by
  intro other
  rw [bucket_append]
  split
  case isTrue same =>
    subst same
    have inserted := insertInto_map (fun id => id) Message.Record.encode (fun _ _ => rfl)
      message (contents other)
    rw [SortedTable.insert, holds other, inserted, keepLast_map, Contents.add_same]
  case isFalse differ =>
    rw [holds other, Contents.add_of_ne contents differ]

theorem Holds.values {memory : Memory} {contents : Contents} (holds : memory.Holds contents)
    (channel : String) :
    (memory.bucket channel).values = (contents channel).map Message.Record.encode := by
  rw [SortedTable.values, holds channel, List.map_map]
  rfl

end Memory

namespace Tables

theorem bucketTable_inj {channel other : String} :
    bucketTable channel = bucketTable other ↔ channel = other := by
  simp [bucketTable]

theorem bucketTable_ne_activityTable (channel : String) :
    bucketTable channel ≠ activityTable := by
  intro same
  have characters := congrArg String.toList same
  simp [bucketTable, activityTable] at characters

theorem bucketTable_ne_recencyTable (channel : String) :
    bucketTable channel ≠ recencyTable := by
  intro same
  have characters := congrArg String.toList same
  simp [bucketTable, recencyTable] at characters

/--
The records of each channel stand under the keys of their messages, and every
activity has eight bytes.
-/
structure Holds (tables : Tables) (contents : Contents) : Prop where
  buckets : ∀ channel, (tables.table (bucketTable channel)).entries =
    (contents channel).map fun message => (messageKey message.id, Message.Record.encode message)
  activities : ∀ entry ∈ (tables.table activityTable).entries, entry.2.length = 8

theorem holds_empty : Tables.empty.Holds Contents.none :=
  ⟨fun _ => rfl, fun _ member => nomatch member⟩

theorem Holds.lastActive {tables : Tables} {contents : Contents} (holds : tables.Holds contents)
    (channel : String) : ∃ active, tables.lastActive channel = .ok active := by
  rw [Tables.lastActive]
  cases found : (tables.table activityTable).get? (Bytes.ofText channel) with
  | none => exact ⟨none, rfl⟩
  | some bytes =>
      rcases Option.map_eq_some_iff.mp found with ⟨entry, present, rfl⟩
      have width := holds.activities entry (List.mem_of_find?_eq_some present)
      exact ⟨_, by simp only [decodeTime, if_pos width]; rfl⟩

/-- An append writes three tables: the bucket, the index by time, and the activities. -/
theorem table_append {tables next : Tables} {channel : String} {message : Message}
    {active : Seconds} {keep : Nat}
    (appended : tables.append channel message active keep = .ok next) :
    (∀ other, next.table (bucketTable other) =
      if other = channel then
        ((tables.table (bucketTable channel)).insert (messageKey message.id)
          (Message.Record.encode message)).keepLast keep
      else tables.table (bucketTable other)) ∧
    next.table activityTable =
      (tables.table activityTable).insert (Bytes.ofText channel) (timeBytes active) := by
  rw [append] at appended
  cases read : tables.lastActive channel with
  | error fault => simp [read, bind, Except.bind] at appended
  | ok previous =>
      simp only [read, bind, Except.bind, pure, Except.pure, Except.ok.injEq] at appended
      subst appended
      constructor
      · intro other
        simp only [table, Memory.put, lookup_replace, bucketTable_inj, bucketTable_ne_activityTable,
          bucketTable_ne_recencyTable, if_false]
        split <;> rfl
      · have notBucket := (bucketTable_ne_activityTable channel).symm
        have notRecency : activityTable ≠ recencyTable := by decide
        simp only [table, Memory.put, lookup_replace, notBucket, notRecency, if_false, if_true, Option.getD_some]

theorem Holds.append {tables : Tables} {contents : Contents} (holds : tables.Holds contents)
    (channel : String) (message : Message) (active : Seconds) (keep : Nat) :
    ∃ next, tables.append channel message active keep = .ok next ∧
      next.Holds (contents.add channel message keep) := by
  rcases holds.lastActive channel with ⟨previous, read⟩
  obtain ⟨next, appended⟩ : ∃ next, tables.append channel message active keep = .ok next := by
    rw [Tables.append, read]
    exact ⟨_, rfl⟩
  rcases table_append appended with ⟨buckets, activities⟩
  refine ⟨next, appended, ?_, ?_⟩
  · intro other
    rw [buckets]
    split
    case isTrue same =>
      subst same
      have inserted := insertInto_map messageKey Message.Record.encode compare_messageKey
        message (contents other)
      rw [SortedTable.insert, holds.buckets other, inserted, keepLast_map, Contents.add_same]
    case isFalse differ =>
      rw [holds.buckets other, Contents.add_of_ne contents differ]
  · intro entry member
    rw [activities] at member
    rcases SortedTable.mem_insertInto member with rfl | old
    · simp [timeBytes]
    · exact holds.activities entry old

theorem Holds.values {tables : Tables} {contents : Contents} (holds : tables.Holds contents)
    (channel : String) :
    (tables.table (bucketTable channel)).values =
      (contents channel).map Message.Record.encode := by
  rw [SortedTable.values, holds.buckets channel, List.map_map]
  rfl

end Tables

namespace Backend

/-- An archive holds given messages of each channel. -/
def Holds : Backend → Contents → Prop
  | .memory held, contents => held.Holds contents
  | .tables held, contents => held.Holds contents

/-- An archive into which nothing was ever written. -/
inductive Blank : Backend → Prop where
  | memory : Blank (.memory Memory.empty)
  | tables : Blank (.tables Tables.empty)

theorem Blank.holds {backend : Backend} (blank : backend.Blank) :
    backend.Holds Contents.none := by
  cases blank with
  | memory => exact Memory.holds_empty
  | tables => exact Tables.holds_empty

/-- An append succeeds; its message is placed, and the newest of its channel stay. -/
theorem Holds.append {backend : Backend} {contents : Contents} (holds : backend.Holds contents)
    (channel : String) (message : Message) (active : Seconds) (keep : Nat) :
    ∃ next, backend.append channel message active keep = .ok next ∧
      next.Holds (contents.add channel message keep) := by
  cases backend with
  | memory held => exact ⟨_, rfl, Memory.Holds.append holds channel message active keep⟩
  | tables held =>
      rcases Tables.Holds.append holds channel message active keep with ⟨next, appended, nextHolds⟩
      exact ⟨.tables next, by rw [Backend.append, appended]; rfl, nextHolds⟩

/-- A channel is loaded as what is read of the records of its messages. -/
theorem Holds.load_eq_decodeAll {backend : Backend} {contents : Contents}
    (holds : backend.Holds contents) (channel : String) :
    backend.load channel = Memory.decodeAll ((contents channel).map Message.Record.encode) := by
  cases backend with
  | memory held => rw [Backend.load, Memory.load, Memory.Holds.values holds]
  | tables held => rw [Backend.load, Tables.load, Tables.Holds.values holds]

/-- A channel is loaded as the messages that are held of it. -/
theorem Holds.load {backend : Backend} {contents : Contents} (holds : backend.Holds contents)
    {channel : String} (fits : ∀ message ∈ contents channel, message.Fits) :
    backend.load channel = .ok (contents channel) := by
  rw [holds.load_eq_decodeAll, decodeAll_map_encode fits]

/-- An archive that was written by appends of messages that fit, and by nothing else. -/
inductive Written : Backend → Prop where
  | blank {backend : Backend} : backend.Blank → Written backend
  | append {backend next : Backend} {channel : String} {message : Message} {active : Seconds}
      {keep : Nat} :
      Written backend → message.Fits →
      backend.append channel message active keep = .ok next → Written next

theorem Written.holds {backend : Backend} (written : backend.Written) :
    ∃ contents : Contents, backend.Holds contents ∧ contents.Sound := by
  induction written with
  | blank blank => exact ⟨Contents.none, blank.holds, Contents.Sound.none⟩
  | @append backend next channel message active keep _ fits appended ih =>
      rcases ih with ⟨contents, holds, sound⟩
      rcases holds.append channel message active keep with ⟨other, same, nextHolds⟩
      obtain rfl : other = next := by simpa [appended] using same.symm
      exact ⟨_, nextHolds, sound.add channel fits keep⟩

end Backend

end FrameChat.Archive
