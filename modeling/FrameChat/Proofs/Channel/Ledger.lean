import FrameChat.Channel.Delivery
import FrameChat.Proofs.Archive.Order

/-!
# The ledger of a channel

Of all that a channel is, its history depends on little: its name, how many
messages it keeps, its log, the last number it gave out, and whether it is
closed.  This part is its ledger.  Adding a message is the only step that
writes to it, closing aside; viewers, mailboxes and pictures do not touch it.

The number of a new message is above the last one, whatever the clock shows and
wherever the counter stands (`lt_nextId`), as long as there is a number left.
-/

namespace FrameChat.Channel

/-- The part of a channel on which its history depends. -/
structure Ledger where
  name : String
  /-- messages kept in the log and in the archive -/
  limit : Nat
  log : List Message
  lastId : UInt64
  closed : Bool

def ledger (channel : Channel) : Ledger :=
  ⟨channel.name, channel.settings.historyLimit, channel.log, channel.lastId, channel.closed⟩

/-! ## Numbers -/

theorem lastId_succ_toNat {channel : Channel} (left : channel.lastId.toNat < UInt64.size - 1) :
    (UInt64.ofNat (min (channel.lastId.toNat + 1) (UInt64.size - 1))).toNat =
      channel.lastId.toNat + 1 := by
  rw [Nat.min_eq_left left, UInt64.toNat_ofNat_of_lt' (by omega)]

theorem second_le_max (first second : UInt64) : second ≤ max first second := by
  show second ≤ if first ≤ second then second else first
  split
  case isTrue => exact UInt64.le_refl second
  case isFalse above => exact UInt64.le_of_lt (UInt64.not_le.mp above)

theorem lt_nextId {channel : Channel} (left : channel.lastId.toNat < UInt64.size - 1)
    (now : Seconds) : channel.lastId < channel.nextId now := by
  have above : channel.lastId.toNat + 1 ≤ (channel.nextId now).toNat := by
    rw [← lastId_succ_toNat left, ← UInt64.le_iff_toNat_le]
    exact second_le_max _ _
  exact UInt64.lt_iff_toNat_lt.mpr above

/-- The last number never falls, not even when there is none left. -/
theorem lastId_le_nextId (channel : Channel) (now : Seconds) :
    channel.lastId ≤ channel.nextId now := by
  by_cases left : channel.lastId.toNat < UInt64.size - 1
  · exact UInt64.le_of_lt (lt_nextId left now)
  · have bound : channel.lastId.toNat < UInt64.size := channel.lastId.toNat_lt
    have last : UInt64.ofNat (min (channel.lastId.toNat + 1) (UInt64.size - 1)) =
        channel.lastId := by
      have top : min (channel.lastId.toNat + 1) (UInt64.size - 1) = channel.lastId.toNat := by
        omega
      rw [top, UInt64.ofNat_toNat]
    calc
      channel.lastId = UInt64.ofNat (min (channel.lastId.toNat + 1) (UInt64.size - 1)) := last.symm
      _ ≤ channel.nextId now := second_le_max _ _

/-- What becomes of a message that a channel adds: a number above the last one, and a time. -/
structure Ledger.Numbers (ledger : Ledger) (message numbered : Message) : Prop where
  same : numbered = { message with id := numbered.id, time := numbered.time }
  notBelow : ledger.lastId ≤ numbered.id
  above : ledger.lastId.toNat < UInt64.size - 1 → ledger.lastId < numbered.id

def Ledger.add (ledger : Ledger) (numbered : Message) : Ledger :=
  { ledger with
    log := newest ledger.limit (ledger.log ++ [numbered])
    lastId := numbered.id }

theorem record_of_closed {channel : Channel} (closed : channel.closed = true) (now : Seconds)
    (message : Message) : channel.record now message = (none, channel) := by
  simp [record, closed]

theorem record_of_open {channel : Channel} (isOpen : channel.closed = false) (now : Seconds)
    (message : Message) :
    ∃ numbered, (channel.record now message).1 = some numbered ∧ numbered.time = now ∧
      channel.ledger.Numbers message numbered ∧
      (channel.record now message).2.ledger = channel.ledger.add numbered := by
  refine ⟨{ message with id := channel.nextId now, time := now }, ?_, rfl, ?_, ?_⟩
  · simp [record, isOpen]
  · exact ⟨rfl, lastId_le_nextId channel now, fun left => lt_nextId left now⟩
  · rw [record, if_neg (by simp [isOpen])]
    rfl

/-! ## What keeps the ledger -/

@[simp]
theorem ledger_snapshot (channel : Channel) (instant : Nat) :
    (channel.snapshot instant).2.ledger = channel.ledger := rfl

@[simp]
theorem ledger_offerTo (frame : Frame) (sessions : List Nat) (channel : Channel) :
    (offerTo frame sessions channel).2.ledger = channel.ledger := by
  induction sessions generalizing channel with
  | nil => rfl
  | cons session rest ih => exact ih (channel.setMailbox session _)

@[simp]
theorem ledger_store (channel : Channel) (viewport : Viewport) (rendering : Option Rendering) :
    (channel.store viewport rendering).ledger = channel.ledger := by
  cases rendering with
  | none => rfl
  | some rendering => exact ledger_offerTo rendering.frame (channel.sessionsIn viewport) channel

@[simp]
theorem ledger_publish (channel : Channel) (version : Nat)
    (drawn : PerViewport (Option Rendering)) (renderMs : Nat) :
    (channel.publish version drawn renderMs).2.ledger = channel.ledger := by
  rw [publish]
  split
  · rfl
  · split
    · rfl
    · calc
        _ = ((channel.store .narrow drawn.narrow).store .wide drawn.wide).ledger := rfl
        _ = channel.ledger := by simp

theorem ledger_foldl_displace (viewers : List Viewer) (channel : Channel) :
    (viewers.foldl displace channel).ledger = channel.ledger := by
  induction viewers generalizing channel with
  | nil => rfl
  | cons viewer rest ih => exact ih (channel.displace viewer)

@[simp]
theorem ledger_openSession (channel : Channel) (identity : String) (viewport : Viewport)
    (address : Net.Address) :
    (channel.openSession identity viewport address).2.ledger = channel.ledger := rfl

@[simp]
theorem ledger_enter (channel : Channel) (identity : String) (viewport : Viewport)
    (address : Net.Address) :
    (channel.enter identity viewport address).2.ledger = channel.ledger := by
  rw [enter]
  split
  · rfl
  · dsimp only
    split
    · rfl
    · exact (ledger_openSession _ identity viewport address).trans
        (ledger_foldl_displace (channel.roster.ofIdentity identity) channel)

@[simp]
theorem ledger_remove (channel : Channel) (session : Nat) :
    (channel.remove session).2.ledger = channel.ledger := by
  rw [remove]
  split <;> rfl

@[simp]
theorem ledger_closeMailbox (channel : Channel) (session : Nat) :
    (channel.closeMailbox session).ledger = channel.ledger := rfl

/-! ## Closing -/

/-- Close a ledger if that is wanted. -/
def Ledger.closeIf (wanted : Bool) (ledger : Ledger) : Ledger :=
  { ledger with closed := wanted || ledger.closed }

@[simp]
theorem Ledger.closeIf_false : Ledger.closeIf false = id := rfl

theorem Ledger.closeIf_closeIf (first second : Bool) (ledger : Ledger) :
    (ledger.closeIf second).closeIf first = ledger.closeIf (first || second) := by
  simp [closeIf, Bool.or_assoc]

@[simp]
theorem closeIfIdle_fst (channel : Channel) :
    channel.closeIfIdle.1 = channel.roster.isEmpty := by
  rw [closeIfIdle]
  split
  case isTrue idle => exact idle.symm
  case isFalse watched => simpa using watched

theorem ledger_closeIfIdle (channel : Channel) :
    channel.closeIfIdle.2.ledger = channel.ledger.closeIf channel.roster.isEmpty := by
  rw [closeIfIdle]
  split
  case isTrue idle => rw [idle]; rfl
  case isFalse watched => rw [eq_false_of_ne_true watched]; rfl

theorem ledger_close (channel : Channel) :
    channel.close.ledger = channel.ledger.closeIf true := by
  have mailboxes (sessions : List Nat) (channel : Channel) :
      (sessions.foldl closeMailbox channel).ledger = channel.ledger := by
    induction sessions generalizing channel with
    | nil => rfl
    | cons session rest ih => exact ih (channel.closeMailbox session)
  have kept := mailboxes (channel.roster.viewers.map Viewer.session) channel
  rw [← kept]
  rfl

/-! ## Logs that continue a history -/

/-- The newest of a list do not depend on what was left out before. -/
theorem newest_newest_append (limit : Nat) (earlier later : List Message) :
    newest limit (newest limit earlier ++ later) = newest limit (earlier ++ later) := by
  simp only [newest, List.length_append, List.length_drop]
  rw [← List.drop_append_of_le_length (Nat.sub_le _ _), List.drop_drop]
  congr 1
  omega

/-- The ledger with which a channel of a given history begins. -/
def Ledger.ofHistory (name : String) (limit : Nat) (history : List Message) : Ledger :=
  let log := newest limit history
  ⟨name, limit, log, (log.getLast?.map Message.id).getD 0, false⟩

@[simp]
theorem ledger_ofHistory (name : String) (settings : Settings) (history : List Message)
    (active : Seconds) (counter : UInt64) (notices : PerViewport Frame) (instant : Nat) :
    (ofHistory name settings history active counter notices instant).ledger =
      Ledger.ofHistory name settings.historyLimit history := rfl

/-- What is left out of a history makes no difference to how a channel begins. -/
theorem Ledger.ofHistory_newest (name : String) (limit : Nat) (history : List Message) :
    ofHistory name limit (newest limit history) = ofHistory name limit history := by
  have again := newest_newest_append limit history []
  rw [List.append_nil, List.append_nil] at again
  rw [ofHistory, again, ofHistory]

/-- The last number of a log that increases is not below any other. -/
theorem le_getLast_id {log : List Message} (increasing : Message.Increasing log)
    {message : Message} (member : message ∈ log) :
    message.id ≤ (log.getLast?.map Message.id).getD 0 := by
  rcases List.eq_nil_or_concat log with rfl | ⟨rest, last, rfl⟩
  · cases member
  · rw [List.concat_eq_append] at increasing member ⊢
    rw [List.getLast?_concat, Option.map_some, Option.getD_some]
    rcases List.mem_append.mp member with earlier | same
    · exact UInt64.le_of_lt
        ((List.pairwise_append.mp increasing).2.2 message earlier last (by simp))
    · rw [List.mem_singleton.mp same]
      exact UInt64.le_refl _

/--
A log continues a history by further messages.  The numbers of all increase,
from the first that was kept of the history on, up to the last number.
-/
structure Ledger.Continues (ledger : Ledger) (history added : List Message) : Prop where
  log : ledger.log = newest ledger.limit (history ++ added)
  increasing : Message.Increasing (newest ledger.limit history ++ added)
  bounded : ∀ message ∈ newest ledger.limit history ++ added, message.id ≤ ledger.lastId

theorem Ledger.continues_ofHistory (name : String) (limit : Nat) {history : List Message}
    (increasing : Message.Increasing history) :
    (ofHistory name limit history).Continues history [] := by
  constructor
  · rw [List.append_nil]
    rfl
  · rw [List.append_nil]
    exact increasing.newest limit
  · rw [List.append_nil]
    exact fun _ member => le_getLast_id (increasing.newest limit) member

/-- A message with a number above the last one continues the log. -/
theorem Ledger.Continues.add {ledger : Ledger} {history added : List Message}
    (continues : ledger.Continues history added) {numbered : Message}
    (above : ledger.lastId < numbered.id) :
    (ledger.add numbered).Continues history (added ++ [numbered]) := by
  have aboveAll : ∀ message ∈ newest ledger.limit history ++ added, message.id < numbered.id :=
    fun message member => UInt64.lt_of_le_of_lt (continues.bounded message member) above
  constructor
  · show newest ledger.limit (ledger.log ++ [numbered]) = _
    rw [continues.log, newest_newest_append, List.append_assoc]
    rfl
  · rw [← List.append_assoc]
    exact continues.increasing.snoc aboveAll
  · rw [← List.append_assoc]
    intro message member
    rcases List.mem_append.mp member with old | new
    · exact UInt64.le_of_lt (aboveAll message old)
    · rw [List.mem_singleton.mp new]
      exact UInt64.le_refl _

theorem Ledger.Continues.increasing_log {ledger : Ledger} {history added : List Message}
    (continues : ledger.Continues history added) : Message.Increasing ledger.log := by
  rw [continues.log, ← newest_newest_append]
  exact continues.increasing.newest _

end FrameChat.Channel
