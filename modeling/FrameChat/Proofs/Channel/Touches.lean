import FrameChat.Channel.Delivery
import FrameChat.Proofs.Channel.Reception

/-!
# Steps that do not close a channel

Whoever was given a channel may add messages to it, come to watch it and leave, be
served, and draw it.  Each of these is one step on the channel, a `Touch`; none of
them closes it or opens it again.

A channel that is closed and that nobody watches rests: from then on no touch
changes its log or lets anybody in (`continues_touch`), and closing it once more
does not either.
-/

namespace FrameChat.Channel

/-- One step on a channel that does not close it. -/
inductive Touch where
  | record (now : Seconds) (message : Message)
  | enter (identity : String) (viewport : Viewport) (address : Net.Address)
  | remove (session : Nat)
  | closeMailbox (session : Nat)
  | receive (session : Nat)
  | serve (session : Nat) (allowance : Allowance)
  | snapshot (instant : Nat)
  | publish (version : Nat) (drawn : PerViewport (Option Rendering)) (renderMs : Nat)

/-- Whether a step belongs to drawing the channel. -/
def Touch.draws : Touch → Bool
  | .snapshot .. | .publish .. => true
  | _ => false

def touch (channel : Channel) : Touch → Channel
  | .record now message => (channel.record now message).2
  | .enter identity viewport address => (channel.enter identity viewport address).2
  | .remove session => (channel.remove session).2
  | .closeMailbox session => channel.closeMailbox session
  | .receive session => (channel.receive session).2
  | .serve session allowance => (channel.serveSession session allowance).2
  | .snapshot instant => (channel.snapshot instant).2
  | .publish version drawn renderMs => (channel.publish version drawn renderMs).2

theorem ledger_touch (channel : Channel) (touch : Touch) :
    (channel.touch touch).ledger = channel.ledger ∨
      channel.closed = false ∧ ∃ numbered, (channel.touch touch).ledger = channel.ledger.add numbered := by
  cases touch with
  | record now message =>
      cases closed : channel.closed with
      | true =>
          left
          rw [touch, record_of_closed closed]
      | false =>
          rcases record_of_open closed now message with ⟨numbered, -, -, -, added⟩
          exact Or.inr ⟨rfl, numbered, added⟩
  | enter identity viewport address => exact Or.inl (ledger_enter channel identity viewport address)
  | remove session => exact Or.inl (ledger_remove channel session)
  | closeMailbox session => exact Or.inl rfl
  | receive session => exact Or.inl rfl
  | serve session allowance => exact Or.inl rfl
  | snapshot instant => exact Or.inl rfl
  | publish version drawn renderMs => exact Or.inl (ledger_publish channel version drawn renderMs)

theorem name_touch (channel : Channel) (touch : Touch) :
    (channel.touch touch).name = channel.name := by
  rcases ledger_touch channel touch with same | ⟨-, numbered, added⟩
  · exact congrArg Ledger.name same
  · exact congrArg Ledger.name added

theorem closed_touch (channel : Channel) (touch : Touch) :
    (channel.touch touch).closed = channel.closed := by
  rcases ledger_touch channel touch with same | ⟨-, numbered, added⟩
  · exact congrArg Ledger.closed same
  · exact congrArg Ledger.closed added

/-- The roster depends on who comes and goes, and nobody comes to a closed channel. -/
theorem roster_touch (channel : Channel) (touch : Touch)
    (idle : touch.draws = true ∨ channel.closed = true ∧ channel.roster.isEmpty = true) :
    (channel.touch touch).roster = channel.roster := by
  cases touch with
  | record now message =>
      exact congrArg Reception.roster (reception_record channel now message)
  | enter identity viewport address =>
      rcases idle with drawn | ⟨closed, -⟩
      · cases drawn
      · rw [touch, enter, if_pos closed]
  | remove session =>
      rcases idle with drawn | ⟨-, vacant⟩
      · cases drawn
      · have absent : channel.roster.viewer? session = none := by
          rw [Roster.viewer?, List.isEmpty_iff.mp vacant]
          rfl
        rw [touch, remove, Roster.unregister_of_none absent]
  | closeMailbox session => rfl
  | receive session => rfl
  | serve session allowance => rfl
  | snapshot instant => rfl
  | publish version drawn renderMs =>
      exact congrArg Reception.roster (reception_publish channel version drawn renderMs)

/-! ## Channels that rest -/

/-- A channel that is closed and that nobody watches. -/
structure Rests (channel : Channel) : Prop where
  closed : channel.closed = true
  vacant : channel.roster.isEmpty = true

/-- What every step leaves of a channel, above all if it rests. -/
structure Continues (before after : Channel) : Prop where
  name : after.name = before.name
  rests : before.Rests → after.Rests ∧ after.log = before.log

theorem Continues.refl (channel : Channel) : channel.Continues channel :=
  ⟨rfl, fun rests => ⟨rests, rfl⟩⟩

theorem Continues.trans {first second third : Channel} (start : first.Continues second)
    (next : second.Continues third) : first.Continues third := by
  refine ⟨next.name.trans start.name, fun rests => ?_⟩
  rcases start.rests rests with ⟨resting, sameLog⟩
  rcases next.rests resting with ⟨still, log⟩
  exact ⟨still, log.trans sameLog⟩

theorem continues_touch (channel : Channel) (touch : Touch) :
    channel.Continues (channel.touch touch) := by
  refine ⟨name_touch channel touch, fun rests => ⟨⟨?_, ?_⟩, ?_⟩⟩
  · rw [closed_touch, rests.closed]
  · rw [roster_touch channel touch (Or.inr ⟨rests.closed, rests.vacant⟩), rests.vacant]
  · rcases ledger_touch channel touch with same | ⟨isOpen, -⟩
    · exact congrArg Ledger.log same
    · rw [rests.closed] at isOpen
      cases isOpen

theorem roster_close (channel : Channel) : channel.close.roster = channel.roster :=
  congrArg Reception.roster (reception_close channel)

theorem closed_close (channel : Channel) : channel.close.closed = true :=
  congrArg Ledger.closed (ledger_close channel)

theorem continues_close (channel : Channel) : channel.Continues channel.close := by
  have ledger := ledger_close channel
  refine ⟨congrArg Ledger.name ledger, fun rests => ⟨⟨closed_close channel, ?_⟩, ?_⟩⟩
  · rw [roster_close, rests.vacant]
  · exact congrArg Ledger.log ledger

theorem closeIfIdle_of_idle {channel : Channel} (idle : channel.roster.isEmpty = true) :
    channel.closeIfIdle = (true, { channel with closed := true }) := by
  rw [closeIfIdle, if_pos idle]

theorem continues_closeIfIdle (channel : Channel) : channel.Continues channel.closeIfIdle.2 := by
  rw [closeIfIdle]
  split
  case isTrue idle => exact ⟨rfl, fun _ => ⟨⟨rfl, idle⟩, rfl⟩⟩
  case isFalse => exact .refl channel

end FrameChat.Channel
