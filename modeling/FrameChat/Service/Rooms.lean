import FrameChat.Service.Drawing

/-!
# Rooms

Loading and opening channels, adding messages, drawing again, joining and
leaving.  A message is in the log before it is in the archive, and stays in the
log if the archive fails.  Drawing takes place between a snapshot and its
publication.
-/

namespace FrameChat.Service

/-- Why a message was not added as it should be. -/
inductive AppendFault where
  /-- the channel takes no messages any more -/
  | closed
  /-- the message is in the log, but not in the archive -/
  | archive (fault : Archive.Fault)
  deriving DecidableEq, Repr

/-- How the fault is worded. -/
def AppendFault.message : AppendFault → String
  | .closed => "channel is closed"
  | .archive fault => "persistence failed: " ++ fault.message

/-- Add a message to a channel: number and time come first, then the archive, for written messages. -/
def append (channel : Nat) (message : Message) : Op (Except AppendFault Message) := do
  let now ← Operation.now
  match ← onChannel channel (·.record now message) with
  | none => return .error .closed
  | some message =>
      if message.kind = .text then
        let settings ← Operation.ask fun service => service.channel channel
        match ← onArchive (·.append settings.name message now settings.settings.historyLimit) with
        | .ok () => return .ok message
        | .error fault => return .error (.archive fault)
      else
        return .ok message

/-- Take a snapshot of a channel. -/
def snapshot (channel : Nat) : Op Channel.Snapshot :=
  .act fun service => withChannel channel (·.snapshot service.instant) service

/-- Draw a channel in both viewports and publish; whether anything was published is returned. -/
def refresh (channel : Nat) : Op Bool := do
  let snapshot ← snapshot channel
  let now ← Operation.now
  let started ← Operation.ask Service.instant
  let narrow ← render (snapshot.scene .narrow now) .narrow
  let wide ← render (snapshot.scene .wide now) .wide
  let ended ← Operation.ask Service.instant
  onChannel channel (·.publish snapshot.version ⟨narrow, wide⟩ (max (ended - started) 1))

/-- Load a channel from the archive and draw it for the first time. -/
def load (name : String) : Op (Except Archive.Fault Nat) := do
  match ← onArchive (·.load name) with
  | .error fault => return .error fault
  | .ok history =>
      match ← onArchive (·.lastActive name) with
      | .error fault => return .error fault
      | .ok stored =>
          let active ← match stored with
            | some active => pure active
            | none => Operation.now
          let narrow ← renderNotice .narrow Channel.displacedNotice
          let wide ← renderNotice .wide Channel.displacedNotice
          let random ← randomBytes 8
          let counter := UInt64.ofNat (Bytes.ofLittleEndian random)
          let channel ← Operation.act fun service =>
            let channel := Channel.ofHistory name service.channelSettings history active counter
              ⟨narrow, wide⟩ service.instant
            (service.channels.size, { service with channels := service.channels.push channel })
          discard (refresh channel)
          return .ok channel

/-- Why a channel was not opened. -/
inductive OpenFault where
  | invalidName
  | archive (fault : Archive.Fault)
  deriving DecidableEq, Repr

/-- How the fault is worded. -/
def OpenFault.message : OpenFault → String
  | .invalidName => "invalid channel name"
  | .archive fault => "loading channel failed: " ++ fault.message

/-- Set the timer that draws a channel again. -/
def startRefreshTimer (channel : Nat) : Op Unit :=
  .modify fun service =>
    let deadline := service.instant + service.channelSettings.refreshPeriod
    { service with timers := service.timers ++ [.refresh channel deadline] }

/-- Put a loaded channel into the directory, unless another one is live under its name. -/
def insertLoaded (name : String) (channel : Nat) : Op (Option Nat) :=
  .act fun service =>
    let (existing, directory) := service.directory.insert service.isClosed name channel
    (existing, { service with directory })

/--
The live channel under a name.  If there is none it is loaded, and if one
appeared meanwhile, that one is taken and the loaded one closed.
-/
def openChannel (name : String) : Op (Except OpenFault Nat) := do
  if name.isEmpty then
    return .error .invalidName
  match ← Operation.ask (·.find? name) with
  | some channel => return .ok channel
  | none =>
      match ← load name with
      | .error fault => return .error (.archive fault)
      | .ok loaded =>
          match ← insertLoaded name loaded with
          | some existing =>
              onChannel loaded fun channel => ((), channel.close)
              return .ok existing
          | none =>
              startRefreshTimer loaded
              return .ok loaded

/-- What became of someone who wants to watch. -/
inductive Joined where
  | joined (session : Nat)
  | closed
  /-- the identity is connected from elsewhere; the frame says so -/
  | rejected (notice : Frame)

/-- Why nobody joined, if so. -/
def Joined.fault? : Joined → Option String
  | .joined _ => none
  | .closed => some AppendFault.closed.message
  | .rejected _ => some "identity already connected from another address"

/-- Watch a channel.  Who was not there before is announced. -/
def join (channel : Nat) (identity : String) (viewport : Viewport) (address : Net.Address) :
    Op Joined := do
  match ← onChannel channel (·.enter identity viewport address) with
  | .closed => return .closed
  | .rejected => return .rejected (← renderNotice viewport (Channel.rejectedNotice identity))
  | .entered session displaced =>
      unless displaced do
        discard (append channel (Message.presence identity .join))
      discard (refresh channel)
      return .joined session

/-- Stop watching; a session that is not listed is ignored. -/
def leave (channel session : Nat) : Op Unit := do
  match ← onChannel channel (·.remove session) with
  | none => return
  | some viewer =>
      onChannel channel fun channel => ((), channel.closeMailbox session)
      discard (append channel (Message.presence viewer.identity .leave))
      discard (refresh channel)

/-- Close and drop every listed channel that nobody watches; their number is returned. -/
def purge : Op Nat :=
  .act fun service =>
    let (entries, channels) := service.directory.entries.foldl
      (fun (kept, channels) (name, index) =>
        let (idle, channel) := (channels.getD index Channel.shut).closeIfIdle
        if idle then (kept, channels.setIfInBounds index channel)
        else (kept ++ [(name, index)], channels))
      ([], service.channels)
    let viewers := entries.foldr
      (fun entry count => (channels.getD entry.2 Channel.shut).roster.count + count) 0
    (service.directory.entries.length - entries.length,
      { service with directory := ⟨entries, viewers⟩, channels })

/--
Serve the connection of a session until it ends or nothing is left to deliver;
who was not displaced then leaves.
-/
def deliver (channel session : Nat) (allowance : Channel.Allowance) : Op Channel.Transcript := do
  let transcript ← onChannel channel (·.serveSession session allowance)
  match transcript.outcome with
  | some .disconnected | some .closed => discard (leave channel session).attempt
  | some .displaced | none => pure ()
  return transcript

end FrameChat.Service
