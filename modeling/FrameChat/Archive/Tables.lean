import FrameChat.Archive.Memory

/-!
# An archive of byte tables

A durable archive holds nothing but byte strings: tables of keys and values,
the keys in bytewise order.  One table has the last activity of each channel,
one is an index by time and name, and each channel has a table of its records
by number.  Times and numbers are big-endian, so that the order of keys is the
order of numbers.
-/

namespace FrameChat.Archive

/-- A table of byte strings. -/
abbrev ByteTable := SortedTable Bytes Bytes

/-- Byte tables by name. -/
structure Tables where
  tables : List (String × ByteTable)

namespace Tables

/-- Name of the table of activities: channel name to time. -/
def activityTable : String := "channel"

/-- Name of the index by time: time and channel name to nothing. -/
def recencyTable : String := "channelsort"

/-- Name of the table of a channel's records: number to record. -/
def bucketTable (channel : String) : String :=
  "channel-" ++ channel

/-- Tables that hold nothing. -/
def empty : Tables :=
  ⟨[]⟩

/-- A table by its name; one that was never written is empty. -/
def table (tables : Tables) (name : String) : ByteTable :=
  (tables.tables.lookup name).getD SortedTable.empty

/-- Write an entry as it is. -/
def putRaw (tables : Tables) (name : String) (key value : Bytes) : Tables :=
  ⟨Memory.put name ((tables.table name).insert key value) tables.tables⟩

/-- Eight big-endian bytes of a time. -/
def timeBytes (time : Seconds) : Bytes :=
  Bytes.bigEndian 8 time.toUInt64.toNat

/-- Read eight big-endian bytes as a time. -/
def decodeTime (bytes : Bytes) : Except Fault Seconds :=
  if bytes.length = 8 then .ok (UInt64.ofNat (Bytes.ofBigEndian bytes)).toInt64
  else .error (.activityWidth bytes.length)

/-- Key of a record. -/
def messageKey (id : UInt64) : Bytes :=
  Bytes.bigEndian 8 id.toNat

/-- Key of an entry of the index by time. -/
def recencyKey (time : Seconds) (channel : String) : Bytes :=
  timeBytes time ++ Bytes.ofText channel

/-- When a channel was last active. -/
def lastActive (tables : Tables) (channel : String) : Except Fault (Option Seconds) :=
  match (tables.table activityTable).get? (Bytes.ofText channel) with
  | none => .ok none
  | some bytes => (decodeTime bytes).map some

/--
Keep a message and the activity of its channel, all together or, if the stored
activity cannot be read, not at all.
-/
def append (tables : Tables) (channel : String) (message : Message) (active : Seconds)
    (keep : Nat) : Except Fault Tables := do
  let bucket :=
    (tables.table (bucketTable channel)).insert (messageKey message.id)
      (Message.Record.encode message)
  let recency :=
    match ← tables.lastActive channel with
    | some previous => (tables.table recencyTable).erase (recencyKey previous channel)
    | none => tables.table recencyTable
  let activity := (tables.table activityTable).insert (Bytes.ofText channel) (timeBytes active)
  return ⟨Memory.put (bucketTable channel) (bucket.keepLast keep)
    (Memory.put recencyTable (recency.insert (recencyKey active channel) [])
      (Memory.put activityTable activity tables.tables))⟩

/-- The messages of a channel in the order of their numbers. -/
def load (tables : Tables) (channel : String) : Except Fault (List Message) :=
  Memory.decodeAll (tables.table (bucketTable channel)).values

/-- Read an entry of the index by time. -/
def decodeRecencyKey (key : Bytes) : Except Fault (String × Seconds) :=
  if key.length < 8 then .error .shortRecencyKey
  else
    match Bytes.text? (key.drop 8) with
    | none => .error (.nameText ((Text.Utf8.break? (key.drop 8)).getD ⟨0, none⟩))
    | some name => (decodeTime (key.take 8)).map fun time => (name, time)

/-- At most `limit` channels with their last activity, last in the index first. -/
def recent (tables : Tables) (limit : Nat) : Except Fault (List (String × Seconds)) :=
  ((tables.table recencyTable).entries.reverse.take limit).mapM
    fun entry => decodeRecencyKey entry.1

/-- Number of channels that ever kept a message. -/
def channelCount (tables : Tables) : Nat :=
  (tables.table activityTable).size

end Tables

end FrameChat.Archive
