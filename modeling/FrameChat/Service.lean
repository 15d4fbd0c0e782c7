import FrameChat.Archive
import FrameChat.Channel.Delivery
import FrameChat.Directory
import FrameChat.Emoji.Table
import FrameChat.Face.Pool
import FrameChat.Intake
import FrameChat.Operation

/-!
# The service

The whole state of a chat service: its settings, its clock and random source,
its archive, every channel that was ever loaded, the directory of live ones, the
intake, the timers and the open streams.  Requests are operations on this state.
-/

namespace FrameChat

/-- What pictures are drawn with. -/
structure Studio where
  /-- the face; `none` if there is no font at all -/
  face : Option Face
  table : Emoji.Table
  atlas : Option Canvas
  /-- how frames are encoded -/
  format : FrameFormat
  encoder : Encoder

/-- A part of a multipart response. -/
structure Service.Part where
  header : String
  frame : Frame

/-- A viewer's connection that is served in the background. -/
structure Service.Stream where
  channel : Nat
  session : Nat
  /-- whether the client went away -/
  gone : Bool
  /-- whether the connection ended -/
  finished : Bool
  /-- what the client has not read, in order -/
  unread : List Service.Part

/-- Something that happens at an instant, in milliseconds. -/
inductive Service.Timer where
  /-- look whether a channel is due to be drawn again -/
  | refresh (channel deadline : Nat)
  /-- sweep idle channels, every `period` milliseconds -/
  | purge (period deadline : Nat)

/-- The state of a chat service. -/
structure Service where
  studio : Studio
  channelSettings : Channel.Settings
  /-- what the clock shows -/
  clock : Seconds
  /-- milliseconds that timers have seen pass -/
  instant : Nat
  /-- milliseconds since the service was started, by which addresses wait -/
  uptime : Nat
  entropy : Entropy
  archive : Archive
  faces : FacePool
  /-- whether every attempt to ink a character fails -/
  inkFails : Bool
  /-- every instance of a channel, in the order in which they were loaded -/
  channels : Array Channel
  directory : Directory
  intake : Intake
  timers : List Service.Timer
  streams : Array Service.Stream

namespace Service

/-- An operation on a service. -/
abbrev Op (α : Type) := Operation Service α

/-- Bytes of the key that tokens are sealed under. -/
def keyLength : Nat := Cipher.Seal.keyLength

/-- A service at its start; the key of its intake is the first thing drawn. -/
def start (studio : Studio) (channelSettings : Channel.Settings) (limits : Intake.Limits)
    (clock : Seconds) (entropy : Entropy) (archive : Archive) : Service :=
  let (key, entropy) := Entropy.bytes keyLength entropy
  { studio, channelSettings, clock
    instant := 0
    uptime := 0
    entropy, archive
    faces := FacePool.empty
    inkFails := false
    channels := #[]
    directory := Directory.empty
    intake := Intake.new limits key
    timers := []
    streams := #[] }

/-- Start again with the same clock, random source and archive; open connections stay. -/
def restart (service : Service) : Service :=
  let (key, entropy) := Entropy.bytes keyLength service.entropy
  { service with
    entropy
    directory := Directory.empty
    intake := Intake.new service.intake.limits key
    timers := service.timers.filter fun
      | .refresh .. => true
      | .purge .. => false }

/-- An instance of a channel; one that was never loaded takes nothing. -/
def channel (service : Service) (index : Nat) : Channel :=
  service.channels.getD index Channel.shut

/-- Whether an instance is closed. -/
def isClosed (service : Service) (index : Nat) : Bool :=
  (service.channel index).closed

/-- The live instance under a name. -/
def find? (service : Service) (name : String) : Option Nat :=
  service.directory.find? service.isClosed name

/-- Work on an instance of a channel. -/
def withChannel {α : Type} (index : Nat) (act : Channel → α × Channel) (service : Service) :
    α × Service :=
  let (value, channel) := act (service.channel index)
  (value, { service with channels := service.channels.setIfInBounds index channel })

/-- Work on the archive. -/
def withArchive {α : Type} (act : Archive → α × Archive) (service : Service) : α × Service :=
  let (value, archive) := act service.archive
  (value, { service with archive })

/-- One step on a channel. -/
def onChannel {α : Type} (index : Nat) (act : Channel → α × Channel) : Op α :=
  .act (withChannel index act)

/-- One step on the archive. -/
def onArchive {α : Type} (act : Archive → α × Archive) : Op α :=
  .act (withArchive act)

/-- Draw random bytes. -/
def randomBytes (count : Nat) : Op Bytes :=
  .act fun service =>
    let (bytes, entropy) := Entropy.bytes count service.entropy
    (bytes, { service with entropy })

/-- Run an operation on a service alone. -/
def run {α : Type} (operation : Op α) (service : Service) :
    Except Operation.Fault α × Service :=
  operation.run (fun service => some service.clock) service

@[simp]
theorem channel_withChannel {α : Type} {index : Nat} (act : Channel → α × Channel)
    {service : Service} (loaded : index < service.channels.size) :
    (withChannel index act service).2.channel index = (act (service.channel index)).2 := by
  simp [withChannel, channel, loaded]

theorem channel_withChannel_of_ne {α : Type} {index other : Nat} (act : Channel → α × Channel)
    (service : Service) (differ : other ≠ index) :
    (withChannel index act service).2.channel other = service.channel other := by
  simp [withChannel, channel, Ne.symm differ]

end Service

end FrameChat
