import FrameChat.Proofs.Channel.Endings
import FrameChat.Proofs.Service.Footprints

/-!
# Serving a connection to its end

A connection is served until its viewer is displaced, the mailbox is closed, or a
write fails.  A viewer who was displaced is off the roster already and is not
announced; in the other cases the session is taken off the roster, whatever comes
of the rest of the leave (`ends_deliver`).  Together with how deliveries end this
is all that viewers see of the end of a session (`deliveries_end`).
-/

namespace FrameChat.Service

open Operation

section

variable {index : Nat} {before after : Service}

/-- A leave takes its session off the roster at once, and nobody else later. -/
theorem reception_leave
    {session : Nat}
    {result : Except Fault Unit}
    (loaded : index < before.channels.size)
    (ends : Ends (leave index session) before result after) :
    (after.channel index).reception = (before.channel index).reception.dismiss session := by
  replace ends := ends_act_bind.mp ends
  have removed : ((withChannel index (·.remove session) before).2.channel index).reception =
      (before.channel index).reception.dismiss session := by
    rw [channel_withChannel _ loaded]
    exact Channel.reception_remove _ session
  rw [← removed]
  refine @Ends.keeps _ _ _ (fun service => (service.channel index).reception) _ _ _ _ ends ?_
  cases (withChannel index (·.remove session) before).1 with
  | none => exact Keeps.pure _
  | some viewer =>
      refine Keeps.bind (keeps_part_onChannel fun channel => rfl) fun _ => ?_
      refine Keeps.bind (keeps_discard (keeps_reception_append _)) fun _ => ?_
      exact keeps_discard keeps_reception_refresh

/-- Whoever was displaced is not announced; whoever was not is taken off the roster. -/
theorem ends_deliver
    {session : Nat}
    {allowance : Channel.Allowance}
    {transcript : Channel.Transcript}
    (loaded : index < before.channels.size)
    (ends : Ends (deliver index session allowance) before (.ok transcript) after) :
    (transcript.outcome = some .displaced ∨ transcript.outcome = none →
      (after.channel index).ledger = (before.channel index).ledger ∧
        (after.channel index).reception = (before.channel index).reception) ∧
    (transcript.outcome = some .disconnected ∨ transcript.outcome = some .closed →
      (after.channel index).reception = (before.channel index).reception.dismiss session) := by
  replace ends := ends_act_bind.mp ends
  have served := channel_withChannel (·.serveSession session allowance) loaded
  have ledger : ((withChannel index (·.serveSession session allowance) before).2.channel
      index).ledger = (before.channel index).ledger := by
    rw [served]
    rfl
  have reception : ((withChannel index (·.serveSession session allowance) before).2.channel
      index).reception = (before.channel index).reception := by
    rw [served]
    rfl
  have stillLoaded : index <
      (withChannel index (·.serveSession session allowance) before).2.channels.size := by
    simpa [withChannel] using loaded
  generalize (withChannel index (·.serveSession session allowance) before).2 = middle
    at ends ledger reception stillLoaded
  generalize (withChannel index (·.serveSession session allowance) before).1 = written at ends
  -- Both ways of ending without a notice go on with the same leave.
  have leaves (ends : Ends (do discard (leave index session).attempt; return written) middle
      (.ok transcript) after) :
      transcript = written ∧
        (after.channel index).reception = (before.channel index).reception.dismiss session := by
    rcases ends_bind.mp ends with ⟨_, _, leaving, ends⟩
    rcases ends_pure.mp ends with ⟨rfl, rfl⟩
    rcases ends_discard.mp leaving with ⟨result, leaving⟩
    have left := reception_leave stillLoaded (ends_attempt.mp leaving)
    rw [reception] at left
    exact ⟨rfl, left⟩
  rcases written with ⟨outcome, writes⟩
  cases outcome with
  | none =>
      rcases ends_pure.mp ends with ⟨rfl, rfl⟩
      exact ⟨fun _ => ⟨ledger, reception⟩, by simp⟩
  | some outcome =>
      cases outcome with
      | displaced =>
          rcases ends_pure.mp ends with ⟨rfl, rfl⟩
          exact ⟨fun _ => ⟨ledger, reception⟩, by simp⟩
      | disconnected =>
          rcases leaves ends with ⟨rfl, left⟩
          exact ⟨by simp, fun _ => left⟩
      | closed =>
          rcases leaves ends with ⟨rfl, left⟩
          exact ⟨by simp, fun _ => left⟩

end

/--
However all take turns: a session receives frames, then perhaps one notice of a
displacement, and then nothing but the end.  It is told of a displacement only if
somebody of its identity came from its address and it went off the roster by that.
From the moment at which it is off the roster, or the channel is closed, it receives
no frame, and it does not come back.  Serving a connection that ends with the notice
adds nothing to the log, and one that ends otherwise takes its session off the roster,
where it can be only once.
-/
theorem deliveries_end
    (name : String)
    (settings : Channel.Settings)
    (history : List Message)
    (active : Seconds)
    (counter : UInt64)
    (notices : PerViewport Frame)
    (instant : Nat)
    (actions : List Channel.Action) :
    let begun := Channel.Course.start name settings history active counter notices instant
    let course := begun.turns actions
    (∀ session, Channel.Told (course.delivered session)) ∧
      (∀ session notice, .displaced notice ∈ course.delivered session →
        ∃ before action rest viewer, actions = before ++ action :: rest ∧
          (begun.turns before).Displaces action session viewer ∧
          notice = notices.get viewer.viewport) ∧
      (∀ before rest session, actions = before ++ rest →
        session ≤ (begun.turns before).channel.lastSession →
        ((begun.turns before).channel.roster.viewer? session = none ∨
          (begun.turns before).channel.closed = true) →
        ∃ later, course.delivered session = (begun.turns before).delivered session ++ later ∧
          ∀ frame, .frame frame ∉ later) ∧
      (∀ before rest session, actions = before ++ rest →
        session ≤ (begun.turns before).channel.lastSession →
        (begun.turns before).channel.roster.viewer? session = none →
        course.channel.roster.viewer? session = none) ∧
      ∀ (index session : Nat) (allowance : Channel.Allowance) (before after : Service)
        (transcript : Channel.Transcript),
        index < before.channels.size →
        Ends (deliver index session allowance) before (.ok transcript) after →
        (transcript.outcome = some .displaced ∨ transcript.outcome = none →
          (after.channel index).ledger = (before.channel index).ledger ∧
            (after.channel index).roster = (before.channel index).roster) ∧
        (transcript.outcome = some .disconnected ∨ transcript.outcome = some .closed →
          (after.channel index).roster =
            ((before.channel index).roster.unregister session).2) := by
  intro begun course
  have attendedAt (actions : List Channel.Action) : (begun.turns actions).Attended :=
    Channel.Course.attended_turns (Channel.Course.attended_start ..) actions
  have attended : course.Attended := attendedAt actions
  have fitting : course.Fitting := by
    refine Channel.Course.fitting_turns (Channel.Course.attended_start ..) ?_ actions
    intro session _
    exact Or.inl ⟨[], rfl⟩
  refine ⟨Channel.Course.told_delivered attended fitting, ?displaced, ?isOver, ?unlisted,
    ?deliver⟩
  case displaced =>
    intro session notice told
    refine Channel.Course.displaces_of_delivered (attendedAt []) ?_ told
    rintro _ ⟨-, received | waits⟩
    · cases received
    · cases waits
  case isOver =>
    intro before rest session split given isOver
    have whole : course = (begun.turns before).turns rest := by
      rw [← Channel.Course.turns_append, ← split]
    rw [whole]
    exact Channel.Course.delivered_turns_of_over (attendedAt before) given isOver rest
  case unlisted =>
    intro before rest session split given unlisted
    have whole : course = (begun.turns before).turns rest := by
      rw [← Channel.Course.turns_append, ← split]
    rw [whole]
    exact (Channel.Course.gone_turns (attendedAt before) ⟨given, unlisted⟩ rest).unlisted
  case deliver =>
    intro index session allowance before after transcript loaded ends
    rcases ends_deliver loaded ends with ⟨quiet, leaves⟩
    refine ⟨fun displaced => ?_, fun ended => ?_⟩
    · rcases quiet displaced with ⟨ledger, reception⟩
      exact ⟨ledger, congrArg Channel.Reception.roster reception⟩
    · exact congrArg Channel.Reception.roster (leaves ended)

/-- Somebody who watches opens a second window. -/
def secondWindow : List Channel.Action :=
  [.enter "ann" .narrow (.v4 192 0 2 1), .enter "ann" .wide (.v4 192 0 2 1)]

/-- The first window is told so, and what it hears next is the end. -/
theorem deliveries_end_for_displaced_viewer :
    let watched := Channel.Course.quiet.turns secondWindow
    let after := Channel.Course.quiet.turns (secondWindow ++ [.receive 1, .receive 1])
    after.delivered 1 = [.displaced (Frame.empty .narrow), .closed] ∧
      Channel.Told (after.delivered 1) ∧
      (∃ before action rest viewer,
        secondWindow ++ [.receive 1, .receive 1] = before ++ action :: rest ∧
          (Channel.Course.quiet.turns before).Displaces action 1 viewer) ∧
      (∃ later, after.delivered 1 = watched.delivered 1 ++ later ∧
        ∀ frame, .frame frame ∉ later) ∧
      after.channel.roster.viewer? 1 = none ∧
      ∃ transcript served, Ends (deliver 0 1 none) (hosting watched.channel) (.ok transcript)
          served ∧
        transcript.outcome = some .displaced ∧
        (served.channel 0).ledger = watched.channel.ledger := by
  have received : (Channel.Course.quiet.turns
      (secondWindow ++ [.receive 1, .receive 1])).delivered 1 =
        [.displaced (Frame.empty .narrow), .closed] := rfl
  have given : 1 ≤ (Channel.Course.quiet.turns secondWindow).channel.lastSession := by
    decide +kernel
  have gone : (Channel.Course.quiet.turns secondWindow).channel.roster.viewer? 1 = none := rfl
  have noticed : .displaced (Frame.empty .narrow) ∈ (Channel.Course.quiet.turns
      (secondWindow ++ [.receive 1, .receive 1])).delivered 1 := by
    rw [received]
    exact List.mem_cons_self
  rcases deliveries_end "lobby" .standard [] 0 0 ⟨Frame.empty .narrow, Frame.empty .wide⟩ 0
    (secondWindow ++ [.receive 1, .receive 1]) with ⟨told, displacements, isOver, unlisted, deliver⟩
  rcases displacements 1 _ noticed with ⟨before, action, rest, viewer, split, displaces, -⟩
  have ends := Ends.of_run (rfl : (Service.run (Service.deliver 0 1 none)
    (hosting (Channel.Course.quiet.turns secondWindow).channel)).1 = .ok _)
  have quiet := (deliver 0 1 none (hosting _) _ _ Nat.zero_lt_one ends).1 (Or.inl rfl)
  intro watched after
  exact ⟨received, told 1, ⟨before, action, rest, viewer, split, displaces⟩,
    isOver secondWindow _ 1 rfl given (Or.inl gone), unlisted secondWindow _ 1 rfl given gone,
    _, _, ends, rfl, quiet.1⟩

end FrameChat.Service
