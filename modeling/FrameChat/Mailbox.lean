/-!
# Mailboxes

A viewer that reads slowly must not make others wait, and has no use for old
frames.  A mailbox therefore holds only the latest frame: each offer discards
what was not read.  A viewer whose identity reconnects is told so by a notice,
which is delivered before anything else; after that, and after closing, the
mailbox takes nothing more.
-/

namespace FrameChat

/-- What a viewer receives. -/
inductive Delivery (α : Type) where
  /-- the latest frame -/
  | frame (content : α)
  /-- the identity reconnected; this is the last thing shown -/
  | displaced (notice : α)
  /-- nothing more will come -/
  | closed
  deriving DecidableEq, Repr

/-- The frames waiting for one viewer. -/
structure Mailbox (α : Type) where
  capacity : Nat
  waiting : List α
  notice : Option α
  closed : Bool
  deriving DecidableEq, Repr

namespace Mailbox

variable {α : Type}

/-- An open mailbox without anything in it. -/
def empty (capacity : Nat) : Mailbox α :=
  ⟨capacity, [], none, false⟩

/-- Offer a frame in place of what was not read; whether it was taken is returned beside the mailbox. -/
def offer (mailbox : Mailbox α) (frame : α) : Bool × Mailbox α :=
  if mailbox.closed then (false, mailbox)
  else if mailbox.capacity = 0 then (false, { mailbox with waiting := [] })
  else (true, { mailbox with waiting := [frame] })

/-- Tell the viewer that its identity reconnected, and close. -/
def displace (mailbox : Mailbox α) (notice : α) : Mailbox α :=
  { mailbox with waiting := [], notice := some notice, closed := true }

/-- Close without a notice. -/
def close (mailbox : Mailbox α) : Mailbox α :=
  { mailbox with waiting := [], closed := true }

/-- Take the next delivery, if there is one: a notice first, then a frame, then the end. -/
def receive (mailbox : Mailbox α) : Option (Delivery α) × Mailbox α :=
  match mailbox.notice, mailbox.waiting with
  | some notice, _ => (some (.displaced notice), { mailbox with notice := none })
  | none, frame :: rest => (some (.frame frame), { mailbox with waiting := rest })
  | none, [] => (if mailbox.closed then some .closed else none, mailbox)

/-- Frames waiting to be read. -/
def pending (mailbox : Mailbox α) : Nat :=
  mailbox.waiting.length

@[simp]
theorem capacity_offer (mailbox : Mailbox α) (frame : α) :
    (mailbox.offer frame).2.capacity = mailbox.capacity := by
  unfold offer
  split
  · rfl
  · split <;> rfl

@[simp]
theorem capacity_displace (mailbox : Mailbox α) (notice : α) :
    (mailbox.displace notice).capacity = mailbox.capacity := rfl

@[simp]
theorem capacity_close (mailbox : Mailbox α) : mailbox.close.capacity = mailbox.capacity := rfl

/-- A frame is taken exactly by an open mailbox with room. -/
theorem offer_taken (mailbox : Mailbox α) (frame : α) :
    (mailbox.offer frame).1 = true ↔ mailbox.closed = false ∧ 0 < mailbox.capacity := by
  by_cases shut : mailbox.closed = true
  · simp [offer, shut]
  · by_cases full : mailbox.capacity = 0
    · simp [offer, shut, full]
    · simp [offer, shut, full, Nat.pos_of_ne_zero]

@[simp]
theorem receive_of_notice {mailbox : Mailbox α} {notice : α}
    (waiting : mailbox.notice = some notice) :
    mailbox.receive = (some (.displaced notice), { mailbox with notice := none }) := by
  simp [receive, waiting]

end Mailbox

end FrameChat
