import FrameChat.Archive.Faults
import FrameChat.Archive.Tables

/-!
# Archives

An archive keeps the newest written messages of each channel, and knows which
channels were active last.  It is held in memory or in byte tables, and may be
made to fail.  A failed operation changes nothing but the faults to come.
-/

namespace FrameChat

/-- Where an archive keeps what it holds. -/
inductive Archive.Backend where
  | memory (memory : Archive.Memory)
  | tables (tables : Archive.Tables)

/-- An archive and its faults. -/
structure Archive where
  backend : Archive.Backend
  faults : Archive.Faults

namespace Archive

namespace Backend

/-- Keep a message and the activity of its channel. -/
def append (channel : String) (message : Message) (active : Seconds) (keep : Nat) :
    Backend → Except Fault Backend
  | .memory held => .ok (.memory (held.append channel message active keep))
  | .tables held => (held.append channel message active keep).map .tables

/-- The messages of a channel in the order of their numbers. -/
def load (channel : String) : Backend → Except Fault (List Message)
  | .memory held => held.load channel
  | .tables held => held.load channel

/-- When a channel was last active. -/
def lastActive (channel : String) : Backend → Except Fault (Option Seconds)
  | .memory held => .ok (held.lastActive channel)
  | .tables held => held.lastActive channel

/-- At most `limit` channels with their last activity, latest first. -/
def recent (limit : Nat) : Backend → Except Fault (List (String × Seconds))
  | .memory held => .ok (held.recent limit)
  | .tables held => held.recent limit

/-- Number of channels that ever kept a message. -/
def channelCount : Backend → Except Fault Nat
  | .memory held => .ok held.channelCount
  | .tables held => .ok held.channelCount

end Backend

/-- An archive in memory that does not fail. -/
def inMemory : Archive :=
  ⟨.memory Memory.empty, .never⟩

/-- An archive of byte tables that does not fail. -/
def inTables : Archive :=
  ⟨.tables Tables.empty, .never⟩

/-- What a file begins with in which tables are kept; a reader of other files recognises none. -/
def fileMark : Bytes :=
  [0x72, 0x65, 0x64, 0x62, 0x1A, 0x0A, 0xA9, 0x0D, 0x0A]

/-- The first page of the file of an archive without entries, as far as other readers look at it. -/
def blankFile : Bytes :=
  fileMark ++ List.replicate 4096 0

/-- Roll for a fault, and otherwise ask the backend. -/
def ask {α : Type} (archive : Archive) (question : Backend → Except Fault α) :
    Except Fault α × Archive :=
  let (fails, faults) := archive.faults.roll
  (if fails then .error .injected else question archive.backend, { archive with faults })

/-- Keep a message and the activity of its channel. -/
def append (archive : Archive) (channel : String) (message : Message) (active : Seconds)
    (keep : Nat) : Except Fault Unit × Archive :=
  match archive.ask (·.append channel message active keep) with
  | (.ok backend, archive) => (.ok (), { archive with backend })
  | (.error fault, archive) => (.error fault, archive)

/-- The messages of a channel in the order of their numbers. -/
def load (archive : Archive) (channel : String) : Except Fault (List Message) × Archive :=
  archive.ask (·.load channel)

/-- When a channel was last active. -/
def lastActive (archive : Archive) (channel : String) :
    Except Fault (Option Seconds) × Archive :=
  archive.ask (·.lastActive channel)

/-- At most `limit` channels with their last activity, latest first. -/
def recent (archive : Archive) (limit : Nat) :
    Except Fault (List (String × Seconds)) × Archive :=
  archive.ask (·.recent limit)

/-- Number of channels that ever kept a message. -/
def channelCount (archive : Archive) : Except Fault Nat × Archive :=
  archive.ask (·.channelCount)

end Archive

end FrameChat
