import FrameChat.Proofs.Channel.Course

/-!
# Traffic

A channel offers frames to mailboxes on two occasions: what is published is offered to all who
watch in its viewport, and who begins to watch is offered the frame that is stored.  An
acceptance is an offer that was taken.  The traffic of a channel counts the bytes of what was
accepted on the first occasion and leaves out the second, so that it falls short of the bytes
of all acceptances by those of the first frames of viewers.

* `traffic_of_publications`: the traffic of a channel after any actions, and when it is all.
* `first_frame_is_not_counted`: a viewer whose first frame is missing in the traffic.
-/

namespace FrameChat.Channel

/-- A frame that the mailbox of a session took when it was offered. -/
structure Acceptance where
  session : Nat
  frame : Frame

/-- Bytes of accepted frames, each counted as often as it was accepted. -/
def totalBytes (acceptances : List Acceptance) : Nat :=
  acceptances.foldr (fun acceptance total => acceptance.frame.byteLength + total) 0

theorem totalBytes_append (earlier later : List Acceptance) :
    totalBytes (earlier ++ later) = totalBytes earlier + totalBytes later := by
  induction earlier with
  | nil => exact (Nat.zero_add _).symm
  | cons first rest ih =>
      show first.frame.byteLength + totalBytes (rest ++ later) = _
      rw [ih, ← Nat.add_assoc]
      rfl

theorem totalBytes_eq_zero {acceptances : List Acceptance} :
    totalBytes acceptances = 0 ↔ ∀ acceptance ∈ acceptances, acceptance.frame.byteLength = 0 := by
  induction acceptances with
  | nil => simp [totalBytes]
  | cons first rest ih =>
      show first.frame.byteLength + totalBytes rest = 0 ↔ _
      rw [Nat.add_eq_zero_iff, ih, List.forall_mem_cons]

/-! ## Publications -/

/-- The sessions that take a frame when it is offered to one after the other. -/
def takers (frame : Frame) : (sessions : List Nat) → Channel → List Nat
  | [], _ => []
  | session :: rest, channel =>
      let (taken, mailbox) := (channel.mailbox session).offer frame
      let later := takers frame rest (channel.setMailbox session mailbox)
      if taken then session :: later else later

/-- What is counted of an offer to sessions is how many of them take it. -/
theorem offerTo_fst (frame : Frame) (sessions : List Nat) (channel : Channel) :
    (offerTo frame sessions channel).1 = (takers frame sessions channel).length := by
  induction sessions generalizing channel with
  | nil => rfl
  | cons session rest ih =>
      rw [offerTo, takers]
      rcases (channel.mailbox session).offer frame with ⟨taken, mailbox⟩
      have later := ih (channel.setMailbox session mailbox)
      cases taken with
      | true => exact congrArg (· + 1) later
      | false => exact later

/-- What mailboxes accept when a rendering is stored for a viewport. -/
def acceptances (channel : Channel) (viewport : Viewport) : Option Rendering → List Acceptance
  | none => []
  | some rendering =>
      (takers rendering.frame (channel.sessionsIn viewport) channel).map (⟨·, rendering.frame⟩)

theorem totalBytes_map (frame : Frame) (sessions : List Nat) :
    totalBytes (sessions.map (⟨·, frame⟩)) = frame.byteLength * sessions.length := by
  induction sessions with
  | nil => rfl
  | cons session rest ih =>
      show frame.byteLength + totalBytes (rest.map (⟨·, frame⟩)) = _
      rw [ih, List.length_cons, Nat.mul_succ, Nat.add_comm]

theorem trafficBytes_store (channel : Channel) (viewport : Viewport)
    (rendering : Option Rendering) :
    (channel.store viewport rendering).trafficBytes =
      channel.trafficBytes + totalBytes (channel.acceptances viewport rendering) := by
  cases rendering with
  | none => rfl
  | some rendering =>
      rcases offerTo_eq rendering.frame (channel.sessionsIn viewport) channel with
        ⟨mailboxes, same⟩
      rw [acceptances, totalBytes_map, ← offerTo_fst, store]
      dsimp only
      rw [same]

/-- What mailboxes accept of a publication: first in one viewport, then in the other. -/
def acceptancesOf (channel : Channel) (drawn : PerViewport (Option Rendering)) :
    List Acceptance :=
  channel.acceptances .narrow drawn.narrow ++
    (channel.store .narrow drawn.narrow).acceptances .wide drawn.wide

theorem trafficBytes_publish {channel after : Channel} {version : Nat}
    {drawn : PerViewport (Option Rendering)} {renderMs : Nat}
    (published : channel.publish version drawn renderMs = (true, after)) :
    after.trafficBytes = channel.trafficBytes + totalBytes (channel.acceptancesOf drawn) := by
  rcases publish_of_true published with ⟨-, rfl⟩
  show ((channel.store .narrow drawn.narrow).store .wide drawn.wide).trafficBytes = _
  rw [trafficBytes_store, trafficBytes_store, acceptancesOf, totalBytes_append, Nat.add_assoc]

/-! ## Steps that leave the traffic as it is -/

theorem trafficBytes_record (channel : Channel) (now : Seconds) (message : Message) :
    (channel.record now message).2.trafficBytes = channel.trafficBytes := by
  rw [record]
  split <;> rfl

theorem trafficBytes_enter (channel : Channel) (identity : String) (viewport : Viewport)
    (address : Net.Address) :
    (channel.enter identity viewport address).2.trafficBytes = channel.trafficBytes := by
  cases outcome : channel.enter identity viewport address with
  | mk entry after =>
      cases entry with
      | closed => rw [enter_of_not_entered outcome (by simp)]
      | rejected => rw [enter_of_not_entered outcome (by simp)]
      | entered session displaced =>
          rcases enter_of_entered outcome with ⟨-, rfl⟩
          rcases foldl_displace_eq (channel.roster.ofIdentity identity) channel with
            ⟨roster, mailboxes, same⟩
          rw [same]
          rfl

theorem trafficBytes_remove (channel : Channel) (session : Nat) :
    (channel.remove session).2.trafficBytes = channel.trafficBytes := by
  rw [remove]
  split <;> rfl

theorem trafficBytes_closeIfIdle (channel : Channel) :
    channel.closeIfIdle.2.trafficBytes = channel.trafficBytes := by
  rw [closeIfIdle]
  split <;> rfl

theorem trafficBytes_close (channel : Channel) :
    channel.close.trafficBytes = channel.trafficBytes := by
  rcases foldl_closeMailbox_eq (channel.roster.viewers.map Viewer.session) channel with
    ⟨mailboxes, same⟩
  rw [close, same]

/-! ## Courses -/

namespace Course

/-- What mailboxes accept of what an action publishes. -/
def acceptedOfPublication (course : Course) : Action → List Acceptance
  | .publish pick drawn renderMs =>
      match course.drawing[pick]? with
      | none => []
      | some version =>
          if (course.channel.publish version drawn renderMs).1 then
            course.channel.acceptancesOf drawn
          else []
  | _ => []

/-- What the mailbox of a session accepts when an action opens the session. -/
def acceptedOnEntry (course : Course) : Action → List Acceptance
  | .enter identity viewport address =>
      match (course.channel.enter identity viewport address).1,
        course.channel.frames.get viewport with
      | .entered session _, some frame =>
          if ((Mailbox.empty course.channel.settings.mailboxCapacity).offer frame).1 then
            [⟨session, frame⟩]
          else []
      | _, _ => []
  | _ => []

/-- Everything that mailboxes accept at an action. -/
def accepted (course : Course) (action : Action) : List Acceptance :=
  course.acceptedOfPublication action ++ course.acceptedOnEntry action

/-- What is accepted, on some occasions, in the course of some actions. -/
def collect (occasion : Course → Action → List Acceptance) (course : Course) :
    List Action → List Acceptance
  | [] => []
  | action :: rest => occasion course action ++ (course.step action).collect occasion rest

/-- What is accepted is accepted of publications or on entry. -/
theorem totalBytes_accepted (course : Course) (actions : List Action) :
    totalBytes (course.collect accepted actions) =
      totalBytes (course.collect acceptedOfPublication actions) +
        totalBytes (course.collect acceptedOnEntry actions) := by
  induction actions generalizing course with
  | nil => rfl
  | cons action rest ih =>
      rw [collect, collect, collect, accepted, totalBytes_append, totalBytes_append,
        totalBytes_append, totalBytes_append, ih]
      omega

/-- An action adds to the traffic what is accepted of its publication. -/
theorem trafficBytes_step (course : Course) (action : Action) :
    (course.step action).channel.trafficBytes =
      course.channel.trafficBytes + totalBytes (course.acceptedOfPublication action) := by
  cases action with
  | record now message => exact trafficBytes_record course.channel now message
  | enter identity viewport address =>
      have kept := trafficBytes_enter course.channel identity viewport address
      rw [step]
      split
      case h_1 session displaced after outcome =>
        rw [outcome] at kept
        exact kept
      case h_2 entry after outside outcome =>
        rw [outcome] at kept
        exact kept
  | remove session => exact trafficBytes_remove course.channel session
  | closeMailbox session => rfl
  | receive session => rfl
  | closeIfIdle => exact trafficBytes_closeIfIdle course.channel
  | close => exact trafficBytes_close course.channel
  | snapshot instant => rfl
  | publish pick drawn renderMs =>
      rw [acceptedOfPublication]
      cases picked : course.drawing[pick]? with
      | none =>
          rw [step, picked]
          rfl
      | some version =>
          rw [channel_step_publish picked]
          dsimp only
          cases outcome : course.channel.publish version drawn renderMs with
          | mk published after =>
              cases published with
              | true => exact trafficBytes_publish outcome
              | false =>
                  rw [(publish_of_false outcome).1]
                  rfl

theorem trafficBytes_run (course : Course) (actions : List Action) :
    (course.run actions).channel.trafficBytes =
      course.channel.trafficBytes +
        totalBytes (course.collect acceptedOfPublication actions) := by
  induction actions generalizing course with
  | nil => rfl
  | cons action rest ih =>
      show ((course.step action).run rest).channel.trafficBytes = _
      rw [ih, trafficBytes_step, collect, totalBytes_append, Nat.add_assoc]

/--
After any actions, in any order and whatever could not be drawn, the traffic of a channel is
the number of bytes of what mailboxes accepted of publications.  All that was accepted is more
by the first frames of viewers; the traffic is all exactly if these had no bytes.
-/
theorem traffic_of_publications
    (name : String)
    (settings : Settings)
    (history : List Message)
    (active : Seconds)
    (counter : UInt64)
    (notices : PerViewport Frame)
    (instant : Nat)
    (actions : List Action) :
    let begun := start name settings history active counter notices instant
    let traffic := (begun.run actions).channel.trafficBytes
    traffic = totalBytes (begun.collect acceptedOfPublication actions) ∧
      totalBytes (begun.collect accepted actions) =
        traffic + totalBytes (begun.collect acceptedOnEntry actions) ∧
      (traffic = totalBytes (begun.collect accepted actions) ↔
        ∀ first ∈ begun.collect acceptedOnEntry actions, first.frame.byteLength = 0) := by
  intro begun traffic
  have published : traffic = totalBytes (begun.collect acceptedOfPublication actions) :=
    (trafficBytes_run begun actions).trans (Nat.zero_add _)
  have all : totalBytes (begun.collect accepted actions) =
      traffic + totalBytes (begun.collect acceptedOnEntry actions) := by
    rw [published, totalBytes_accepted]
  refine ⟨published, all, ?_⟩
  rw [← totalBytes_eq_zero]
  omega

/-- A picture of ten bytes is published, and then somebody comes to watch. -/
def latecomer : List Action :=
  [.snapshot 0, .publish 0 ⟨none, some ⟨{ Frame.empty .wide with byteLength := 10 }, []⟩⟩ 1,
    .enter "ann" .wide (.v4 192 0 2 1)]

/-- The mailbox of the latecomer accepts ten bytes, and the traffic stays zero. -/
theorem first_frame_is_not_counted :
    ¬∀ (name : String) (settings : Settings) (history : List Message) (active : Seconds)
      (counter : UInt64) (notices : PerViewport Frame) (instant : Nat) (actions : List Action),
      let begun := start name settings history active counter notices instant
      (begun.run actions).channel.trafficBytes = totalBytes (begun.collect accepted actions) := by
  intro always
  have equal := always "lobby" .standard [] 0 0 ⟨Frame.empty .narrow, Frame.empty .wide⟩ 0 latecomer
  have counted : (quiet.run latecomer).channel.trafficBytes = 0 := rfl
  have bytes : totalBytes (quiet.collect accepted latecomer) = 10 := rfl
  have impossible : 0 = 10 := counted.symm.trans (equal.trans bytes)
  cases impossible

end Course

end FrameChat.Channel
