import FrameChat.Calendar

/-!
# Messages

A channel's log holds what its members wrote and notices of who came and went.
Each message carries a 64-bit number that grows within its channel: its upper
part is the second it was posted in, then fifteen bits of the channel's name
hash, then sixteen bits of a counter.
-/

namespace FrameChat

/-- What a message says: something written, or that its author came or went. -/
inductive MessageKind where
  | text
  | join
  | leave
  deriving DecidableEq, Repr, Inhabited

/-- Whether a message is a notice of presence. -/
def MessageKind.isPresence : MessageKind → Bool
  | .text => false
  | .join | .leave => true

/-- One message of a channel. -/
structure Message where
  id : UInt64
  author : String
  time : Seconds
  kind : MessageKind
  text : String
  deriving DecidableEq, Repr, Inhabited

namespace Message

/-- A written message that has no number and no time yet. -/
def written (author text : String) : Message :=
  ⟨0, author, 0, .text, text⟩

/-- A notice of presence that has no number and no time yet. -/
def presence (author : String) (kind : MessageKind) : Message :=
  ⟨0, author, 0, kind, ""⟩

/-- The time at which message numbers start. -/
def idEpoch : Int := 1600000000

/-- Seconds since the start of message numbers; earlier times count as zero. -/
def idSeconds (time : Seconds) : Nat :=
  (time.toInt - idEpoch).toNat

/--
The number for a time, a name hash and a counter.  Seconds beyond 33 bits are
lost at the upper end.
-/
def idFor (time : Seconds) (nameHash : UInt32) (counter : UInt64) : UInt64 :=
  UInt64.ofNat (idSeconds time) <<< 31 |||
    (nameHash &&& 0x7FFF).toUInt64 <<< 16 ||| (counter &&& 0xFFFF)

end Message

end FrameChat
