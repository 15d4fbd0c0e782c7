import FrameChat.Channel
import FrameChat.Proofs.Lookup
import Mathlib.Logic.Function.Basic

/-!
# Mailboxes with stamps

A frame does not say which snapshot it was drawn from.  To follow frames on
their way to viewers, mailboxes are kept a second time with stamped frames in
them.  What a mailbox does depends on no frame, so that forgetting the stamps
gives back what the channel does (`Mailbox.map`).

`Boxes.Mirror` says that stamped mailboxes belong to a channel, and there is one
lemma for each way in which a channel treats its mailboxes.
-/

namespace FrameChat

def Delivery.map {α β : Type} (change : α → β) : Delivery α → Delivery β
  | .frame content => .frame (change content)
  | .displaced notice => .displaced (change notice)
  | .closed => .closed

/-- The frame of a delivery, unless it is a notice or the end. -/
def Delivery.frame? {α : Type} : Delivery α → Option α
  | .frame content => some content
  | .displaced _ => none
  | .closed => none

namespace Mailbox

variable {α β : Type}

def map (change : α → β) (mailbox : Mailbox α) : Mailbox β where
  capacity := mailbox.capacity
  waiting := mailbox.waiting.map change
  notice := mailbox.notice.map change
  closed := mailbox.closed

@[simp]
theorem map_close (change : α → β) (mailbox : Mailbox α) :
    mailbox.close.map change = (mailbox.map change).close := rfl

@[simp]
theorem map_displace (change : α → β) (mailbox : Mailbox α) (notice : α) :
    (mailbox.displace notice).map change = (mailbox.map change).displace (change notice) := rfl

theorem offer_map (change : α → β) (mailbox : Mailbox α) (frame : α) :
    (mailbox.map change).offer (change frame) =
      ((mailbox.offer frame).1, (mailbox.offer frame).2.map change) := by
  rw [offer, offer]
  show (if mailbox.closed then _ else if mailbox.capacity = 0 then _ else _) = _
  split
  · rfl
  · split <;> rfl

theorem receive_map (change : α → β) (mailbox : Mailbox α) :
    (mailbox.map change).receive =
      (mailbox.receive.1.map (Delivery.map change), mailbox.receive.2.map change) := by
  rcases mailbox with ⟨capacity, waiting, notice, closed⟩
  cases notice with
  | some notice => rfl
  | none =>
      cases waiting with
      | cons frame rest => rfl
      | nil => cases closed <;> rfl

end Mailbox

namespace Channel

/-! ## The mailboxes of a channel -/

theorem mailbox_setMailbox (channel : Channel) (session other : Nat) (mailbox : Mailbox Frame) :
    (channel.setMailbox session mailbox).mailbox other =
      if other = session then mailbox else channel.mailbox other := by
  rw [Channel.mailbox, setMailbox, lookup_replace]
  split <;> rfl

theorem setMailbox_setMailbox (channel : Channel) (session : Nat) (first second : Mailbox Frame) :
    (channel.setMailbox session first).setMailbox session second =
      channel.setMailbox session second := by
  simp [setMailbox]

/-- A frame with the number and the version of its publication. -/
structure Stamped where
  frame : Frame
  /-- how many publications there were before -/
  number : Nat
  /-- the version of the snapshot from which the frame was drawn -/
  version : Nat

/-- A notice is not from any snapshot; its stamp is not looked at. -/
def Stamped.ofNotice (notice : Frame) : Stamped :=
  ⟨notice, 0, 0⟩

/-- The mailbox of each session, with stamped frames in it. -/
abbrev Boxes := Nat → Mailbox Stamped

namespace Boxes

/-- Forgetting the stamps gives the mailboxes of a channel. -/
def Mirror (boxes : Boxes) (channel : Channel) : Prop :=
  ∀ session, channel.mailbox session = (boxes session).map Stamped.frame

/-- Nobody has a mailbox yet. -/
def blank (capacity : Nat) : Boxes :=
  fun _ => (Mailbox.empty capacity).close

/-- Offer a frame to sessions. -/
def offerTo (stamped : Stamped) (sessions : List Nat) (boxes : Boxes) : Boxes :=
  sessions.foldl
    (fun boxes session => Function.update boxes session ((boxes session).offer stamped).2) boxes

def displace (notices : PerViewport Frame) (viewers : List Viewer) (boxes : Boxes) : Boxes :=
  viewers.foldl
    (fun boxes viewer => Function.update boxes viewer.session
      ((boxes viewer.session).displace (.ofNotice (notices.get viewer.viewport)))) boxes

def close (sessions : List Nat) (boxes : Boxes) : Boxes :=
  sessions.foldl (fun boxes session => Function.update boxes session (boxes session).close) boxes

variable {boxes : Boxes} {channel : Channel}

theorem Mirror.set (mirror : boxes.Mirror channel) (session : Nat) {mailbox : Mailbox Frame}
    {box : Mailbox Stamped} (same : mailbox = box.map Stamped.frame) :
    Mirror (Function.update boxes session box) (channel.setMailbox session mailbox) := by
  intro other
  rw [mailbox_setMailbox, Function.update_apply]
  split
  · exact same
  · exact mirror other

theorem Mirror.offerTo (mirror : boxes.Mirror channel) (stamped : Stamped) (sessions : List Nat) :
    (boxes.offerTo stamped sessions).Mirror (Channel.offerTo stamped.frame sessions channel).2 := by
  induction sessions generalizing boxes channel with
  | nil => exact mirror
  | cons session rest ih =>
      have offered : ((channel.mailbox session).offer stamped.frame).2 =
          ((boxes session).offer stamped).2.map Stamped.frame := by
        rw [mirror session, Mailbox.offer_map]
      exact ih (mirror.set session offered)

theorem Mirror.displace (mirror : boxes.Mirror channel) (viewers : List Viewer) :
    (boxes.displace channel.notices viewers).Mirror (viewers.foldl Channel.displace channel) := by
  induction viewers generalizing boxes channel with
  | nil => exact mirror
  | cons viewer rest ih =>
      have shown : (channel.mailbox viewer.session).displace
            (channel.notices.get viewer.viewport) =
          ((boxes viewer.session).displace
            (.ofNotice (channel.notices.get viewer.viewport))).map Stamped.frame := by
        rw [mirror viewer.session, Mailbox.map_displace]
        rfl
      have unlisted : boxes.Mirror
          { channel with roster := (channel.roster.unregister viewer.session).2 } := mirror
      exact @ih _ (channel.displace viewer) (unlisted.set viewer.session shown)

theorem Mirror.close (mirror : boxes.Mirror channel) (sessions : List Nat) :
    (boxes.close sessions).Mirror (sessions.foldl closeMailbox channel) := by
  induction sessions generalizing boxes channel with
  | nil => exact mirror
  | cons session rest ih =>
      have closed : (channel.mailbox session).close =
          (boxes session).close.map Stamped.frame := by
        rw [mirror session, Mailbox.map_close]
      exact ih (mirror.set session closed)

end Boxes

end Channel

end FrameChat
