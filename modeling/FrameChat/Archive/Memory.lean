import FrameChat.Archive.Fault
import FrameChat.Archive.SortedTable

/-!
# An archive in memory

Records are kept as bytes, channel by channel in the order of message numbers.
Beside them stand the last activity of each channel and an index of activities
in the order of time and name.
-/

namespace FrameChat.Archive

/-- A channel and when it was last active. -/
structure Activity where
  time : Seconds
  channel : String
  deriving DecidableEq, Repr

/-- Activities are ordered by time and then by name. -/
instance : Ord Activity where
  compare := compareLex (compareOn Activity.time) (compareOn Activity.channel)

/-- An archive in memory. -/
structure Memory where
  buckets : List (String × SortedTable UInt64 Bytes)
  active : List (String × Seconds)
  recency : SortedTable Activity Unit

namespace Memory

/-- An archive that holds nothing. -/
def empty : Memory :=
  ⟨[], [], SortedTable.empty⟩

/-- The records of a channel. -/
def bucket (memory : Memory) (channel : String) : SortedTable UInt64 Bytes :=
  (memory.buckets.lookup channel).getD SortedTable.empty

/-- Set the value of a key, in place of what it had. -/
def put {ν : Type} (key : String) (value : ν) (entries : List (String × ν)) : List (String × ν) :=
  (key, value) :: entries.filter fun entry => entry.1 ≠ key

/-- When a channel was last active. -/
def lastActive (memory : Memory) (channel : String) : Option Seconds :=
  memory.active.lookup channel

/-- Keep a message and the activity of its channel; at most `keep` messages of the channel stay. -/
def append (memory : Memory) (channel : String) (message : Message) (active : Seconds)
    (keep : Nat) : Memory :=
  let bucket := (memory.bucket channel).insert message.id (Message.Record.encode message)
  let recency :=
    match memory.lastActive channel with
    | some previous => memory.recency.erase ⟨previous, channel⟩
    | none => memory.recency
  { buckets := put channel (bucket.keepLast keep) memory.buckets
    active := put channel active memory.active
    recency := recency.insert ⟨active, channel⟩ () }

/-- Read records up to the first that is none. -/
def decodeAll (records : List Bytes) : Except Fault (List Message) :=
  records.mapM fun record =>
    match Message.Record.decode record with
    | .ok message => .ok message
    | .error fault => .error (.record fault)

/-- The messages of a channel in the order of their numbers. -/
def load (memory : Memory) (channel : String) : Except Fault (List Message) :=
  decodeAll (memory.bucket channel).values

/-- At most `limit` channels with their last activity, latest first. -/
def recent (memory : Memory) (limit : Nat) : List (String × Seconds) :=
  (memory.recency.entries.reverse.take limit).map fun entry => (entry.1.channel, entry.1.time)

/-- Number of channels that ever kept a message. -/
def channelCount (memory : Memory) : Nat :=
  memory.active.length

/-- Number of entries of the index of activities. -/
def indexSize (memory : Memory) : Nat :=
  memory.recency.size

/-- Number of records of all channels. -/
def recordCount (memory : Memory) : Nat :=
  memory.buckets.foldr (fun entry count => entry.2.size + count) 0

end Memory

end FrameChat.Archive
