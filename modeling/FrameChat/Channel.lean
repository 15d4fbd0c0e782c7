import FrameChat.Cipher.Sha256
import FrameChat.Frame
import FrameChat.Mailbox
import FrameChat.Roster

/-!
# Channels

A channel has a bounded log of messages, the last frame for each viewport, and
a roster of viewers with their mailboxes.  Everything here is one step on a
channel: nothing happens in between.

* `record` gives a message its number and time and adds it to the log.
* `snapshot` takes what a picture shows; `publish` stores the frames drawn from
  a snapshot and offers them, unless frames of a later snapshot were published.
* `enter` and `remove` change the roster.  An identity has one session: a second
  one from the same address takes its place, one from elsewhere is turned away.
-/

namespace FrameChat

/-- How a channel is tuned. -/
structure Channel.Settings where
  /-- messages kept in the log and in the archive -/
  historyLimit : Nat
  /-- frames that a mailbox has room for -/
  mailboxCapacity : Nat
  /-- milliseconds after which a watched channel is drawn again -/
  refreshPeriod : Nat
  deriving DecidableEq, Repr

/-- The usual tuning. -/
def Channel.Settings.standard : Channel.Settings :=
  ⟨50, 10, 10000⟩

/-- A frame that was drawn, and the links behind its badges. -/
structure Rendering where
  frame : Frame
  links : List String

/-- A live channel. -/
structure Channel where
  name : String
  settings : Channel.Settings
  log : List Message
  lastId : UInt64
  counter : UInt64
  active : Seconds
  frames : PerViewport (Option Frame)
  links : PerViewport (List String)
  lastFrameBytes : PerViewport Nat
  roster : Roster
  /-- the mailbox of every session there ever was -/
  mailboxes : List (Nat × Mailbox Frame)
  trafficBytes : Nat
  lastRenderMs : Nat
  /-- the instant of the last snapshot, in milliseconds -/
  lastRefresh : Nat
  /-- number of the last session -/
  lastSession : Nat
  /-- grows with every change that a picture shows -/
  version : Nat
  /-- the version of the frames published last -/
  publishedVersion : Nat
  closed : Bool
  /-- what a displaced viewer is shown -/
  notices : PerViewport Frame

namespace Channel

/-- Text shown to a displaced viewer. -/
def displacedNotice : String := "reopened in another window"

/-- Text shown to a viewer whose identity is connected from elsewhere. -/
def rejectedNotice (identity : String) : String :=
  "'" ++ identity ++ "' already exists in this channel"

/-- The hash of a channel's name that goes into message numbers. -/
def nameHash (name : String) : UInt32 :=
  UInt32.ofNat (Bytes.ofBigEndian ((Cipher.Sha256.digest (Bytes.ofText name)).take 4))

/-- The newest `limit` entries of a log. -/
def newest (limit : Nat) (log : List Message) : List Message :=
  log.drop (log.length - limit)

/-- A channel with a given history, before its first frames. -/
def ofHistory (name : String) (settings : Settings) (history : List Message) (active : Seconds)
    (counter : UInt64) (notices : PerViewport Frame) (instant : Nat) : Channel :=
  let log := newest settings.historyLimit history
  { name, settings, log
    lastId := (log.getLast?.map Message.id).getD 0
    counter, active
    frames := .both none
    links := .both []
    lastFrameBytes := .both 0
    roster := Roster.empty
    mailboxes := []
    trafficBytes := 0
    lastRenderMs := 1
    lastRefresh := instant
    lastSession := 0
    version := 0
    publishedVersion := 0
    closed := false
    notices }

/-- A channel that takes nothing. -/
def shut : Channel :=
  { ofHistory "" Settings.standard [] 0 0 ⟨Frame.empty .narrow, Frame.empty .wide⟩ 0 with
    closed := true }

instance : Inhabited Channel := ⟨shut⟩

/-- The number for the next message: above the last one, whatever the clock says. -/
def nextId (channel : Channel) (now : Seconds) : UInt64 :=
  max (Message.idFor now (nameHash channel.name) (channel.counter + 1))
    (UInt64.ofNat (min (channel.lastId.toNat + 1) (UInt64.size - 1)))

/-- Add a message to the log with its number and time; a closed channel takes none. -/
def record (channel : Channel) (now : Seconds) (message : Message) : Option Message × Channel :=
  if channel.closed then (none, channel)
  else
    let id := channel.nextId now
    let message := { message with id, time := now }
    (some message,
      { channel with
        counter := channel.counter + 1
        lastId := id
        active := now
        log := newest channel.settings.historyLimit (channel.log ++ [message])
        version := channel.version + 1 })

/-- What a picture of a channel shows, and the version that it shows. -/
structure Snapshot where
  messages : List Message
  viewers : Nat
  trafficBytes : Nat
  lastFrameBytes : PerViewport Nat
  lastRenderMs : Nat
  version : Nat

/-- The scene of a snapshot for a viewport. -/
def Snapshot.scene (snapshot : Snapshot) (viewport : Viewport) (now : Seconds) : Scene :=
  { messages := snapshot.messages
    viewers := snapshot.viewers
    trafficBytes := snapshot.trafficBytes
    lastFrameBytes := snapshot.lastFrameBytes.get viewport
    lastRenderMs := snapshot.lastRenderMs
    now }

/-- Take a snapshot at an instant. -/
def snapshot (channel : Channel) (instant : Nat) : Snapshot × Channel :=
  ({ messages := channel.log
     viewers := channel.roster.count
     trafficBytes := channel.trafficBytes
     lastFrameBytes := channel.lastFrameBytes
     lastRenderMs := channel.lastRenderMs
     version := channel.version },
    { channel with lastRefresh := instant })

/-- The mailbox of a session. -/
def mailbox (channel : Channel) (session : Nat) : Mailbox Frame :=
  (channel.mailboxes.lookup session).getD (Mailbox.empty channel.settings.mailboxCapacity).close

/-- Change the mailbox of a session. -/
def setMailbox (channel : Channel) (session : Nat) (mailbox : Mailbox Frame) : Channel :=
  { channel with
    mailboxes := (session, mailbox) :: channel.mailboxes.filter fun entry => entry.1 ≠ session }

/-- Offer a frame to sessions; the number that took it is returned beside the channel. -/
def offerTo (frame : Frame) : (sessions : List Nat) → Channel → Nat × Channel
  | [], channel => (0, channel)
  | session :: rest, channel =>
      let (taken, mailbox) := (channel.mailbox session).offer frame
      let (count, channel) := offerTo frame rest (channel.setMailbox session mailbox)
      ((if taken then count + 1 else count), channel)

/-- The sessions that watch in a viewport. -/
def sessionsIn (channel : Channel) (viewport : Viewport) : List Nat :=
  (channel.roster.viewers.filter fun viewer => viewer.viewport = viewport).map Viewer.session

/-- Store a rendering for a viewport and offer its frame to those who watch in it. -/
def store (channel : Channel) (viewport : Viewport) (rendering : Option Rendering) : Channel :=
  match rendering with
  | none => channel
  | some ⟨frame, links⟩ =>
      let (taken, channel) := offerTo frame (channel.sessionsIn viewport) channel
      { channel with
        trafficBytes := channel.trafficBytes + frame.byteLength * taken
        lastFrameBytes := channel.lastFrameBytes.set viewport frame.byteLength
        links := channel.links.set viewport links
        frames := channel.frames.set viewport (some frame) }

/--
Publish what was drawn from a snapshot of a version.  If frames of a later
version were published meanwhile, or nothing could be drawn, nothing is.
-/
def publish (channel : Channel) (version : Nat) (drawn : PerViewport (Option Rendering))
    (renderMs : Nat) : Bool × Channel :=
  if version < channel.publishedVersion then (false, channel)
  else if drawn.narrow.isNone && drawn.wide.isNone then (false, channel)
  else
    (true,
      { (channel.store .narrow drawn.narrow).store .wide drawn.wide with
        publishedVersion := version
        lastRenderMs := renderMs })

/-- What becomes of someone who wants to watch. -/
inductive Entry where
  | closed
  /-- the identity is connected from another address -/
  | rejected
  /-- a session was opened, perhaps in place of another -/
  | entered (session : Nat) (displaced : Bool)
  deriving DecidableEq, Repr

/-- Remove a session from the roster, and show its viewer that it was displaced. -/
def displace (channel : Channel) (viewer : Viewer) : Channel :=
  let (_, roster) := channel.roster.unregister viewer.session
  { channel with roster }.setMailbox viewer.session
    ((channel.mailbox viewer.session).displace (channel.notices.get viewer.viewport))

/-- Open a session whose mailbox already holds the last frame. -/
def openSession (channel : Channel) (identity : String) (viewport : Viewport)
    (address : Net.Address) : Nat × Channel :=
  let session := channel.lastSession + 1
  let mailbox := Mailbox.empty channel.settings.mailboxCapacity
  let mailbox :=
    match channel.frames.get viewport with
    | some frame => (mailbox.offer frame).2
    | none => mailbox
  let (_, roster) := channel.roster.register ⟨session, identity, viewport, address⟩
  (session,
    { channel with lastSession := session, roster, version := channel.version + 1 }.setMailbox
      session mailbox)

/-- Let someone watch, unless the channel is closed or the identity is connected from elsewhere. -/
def enter (channel : Channel) (identity : String) (viewport : Viewport) (address : Net.Address) :
    Entry × Channel :=
  if channel.closed then (.closed, channel)
  else
    let present := channel.roster.ofIdentity identity
    if present.any fun viewer => viewer.address ≠ address then (.rejected, channel)
    else
      let (session, channel) :=
        (present.foldl displace channel).openSession identity viewport address
      (.entered session !present.isEmpty, channel)

/-- Remove a session from the roster; one that is not listed is ignored. -/
def remove (channel : Channel) (session : Nat) : Option Viewer × Channel :=
  match channel.roster.unregister session with
  | (none, _) => (none, channel)
  | (some viewer, roster) =>
      (some viewer, { channel with roster, version := channel.version + 1 })

/-- Close the mailbox of a session. -/
def closeMailbox (channel : Channel) (session : Nat) : Channel :=
  channel.setMailbox session (channel.mailbox session).close

/-- Close the channel if nobody watches; whether it is closed now is returned beside it. -/
def closeIfIdle (channel : Channel) : Bool × Channel :=
  if channel.roster.isEmpty then (true, { channel with closed := true }) else (false, channel)

/-- Close the channel and the mailbox of everybody who watches. -/
def close (channel : Channel) : Channel :=
  { (channel.roster.viewers.map Viewer.session).foldl closeMailbox channel with closed := true }

/-- Take the next delivery of a session. -/
def receive (channel : Channel) (session : Nat) : Option (Delivery Frame) × Channel :=
  let (delivery, mailbox) := (channel.mailbox session).receive
  (delivery, channel.setMailbox session mailbox)

/-- The link behind a badge of the last frame for a viewport. -/
def link? (channel : Channel) (viewport : Viewport) (index : Nat) : Option String :=
  (channel.links.get viewport)[index]?

end Channel

end FrameChat
