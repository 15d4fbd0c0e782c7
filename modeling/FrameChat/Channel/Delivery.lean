import FrameChat.Channel

/-!
# Delivering to a viewer

A viewer's connection takes one delivery after another from its mailbox and
writes frames as parts of a multipart response.  It ends when a write fails,
when the viewer is displaced, or when the mailbox is closed; frames without
bytes are passed over.
-/

namespace FrameChat.Channel

/-- The text between two parts of a response. -/
def boundary : String := "frame"

/-- What stands before the bytes of a frame. -/
def partHeader (frame : Frame) : String :=
  "\r\n--" ++ boundary ++ "\r\nContent-Type: " ++ frame.contentType ++ "\r\n\r\n"

/-- How a viewer's connection ended. -/
inductive Outcome where
  /-- a write failed -/
  | disconnected
  /-- the identity reconnected -/
  | displaced
  /-- the session or the channel was closed -/
  | closed
  deriving DecidableEq, Repr

/-- One write to a connection. -/
inductive Write where
  | header (text : String)
  | data (frame : Frame)

/-- How many writes a connection still takes; `none` if there is no limit. -/
abbrev Allowance := Option Nat

/-- Write the part of a frame: whether that worked, what was written, and what is still allowed. -/
def writePart (allowance : Allowance) (frame : Frame) : Bool × List Write × Allowance :=
  let header := Write.header (partHeader frame)
  if frame.isEmpty then (true, [], allowance)
  else
    match allowance with
    | none => (true, [header, .data frame], none)
    | some 0 => (false, [], some 0)
    | some 1 => (false, [header], some 0)
    | some (left + 2) => (true, [header, .data frame], some left)

/-- The writes of frames in order, up to the first that fails. -/
def writeParts (allowance : Allowance) : List Frame → Bool × List Write × Allowance
  | [] => (true, [], allowance)
  | frame :: rest =>
      match writePart allowance frame with
      | (false, writes, left) => (false, writes, left)
      | (true, writes, left) =>
          let (worked, more, left) := writeParts left rest
          (worked, writes ++ more, left)

/-- What a connection did: how it ended, if it did, and what it wrote. -/
structure Transcript where
  outcome : Option Outcome
  writes : List Write

/--
Serve a connection from a mailbox until it ends or there is nothing to deliver.
A notice comes first and is the last thing written, whether that works or not.
-/
def serve (allowance : Allowance) (mailbox : Mailbox Frame) : Transcript × Mailbox Frame :=
  match mailbox.notice with
  | some notice =>
      (⟨some .displaced, (writePart allowance notice).2.1⟩, { mailbox with notice := none })
  | none =>
      let (worked, writes, _) := writeParts allowance mailbox.waiting
      let outcome :=
        if !worked then some Outcome.disconnected
        else if mailbox.closed then some .closed
        else none
      (⟨outcome, writes⟩, { mailbox with waiting := [] })

/-- Serve the connection of a session. -/
def serveSession (channel : Channel) (session : Nat) (allowance : Allowance) :
    Transcript × Channel :=
  let (transcript, mailbox) := serve allowance (channel.mailbox session)
  (transcript, channel.setMailbox session mailbox)

end FrameChat.Channel
