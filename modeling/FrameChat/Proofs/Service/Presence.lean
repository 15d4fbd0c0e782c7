import FrameChat.Proofs.Service.Visits

/-!
# Presence

A channel is asked for one thing after the other, and each request is carried
out before the next (`Visited`).  Then nobody is on the roster twice, sessions
are never given out again, and the log tells of everybody that they came, left,
came again, and so on, with those on the roster who came last
(`presence_alternates`).
-/

namespace FrameChat.Service

open Operation

/-- The session of somebody who was let in. -/
def Joined.session? : Joined → Option Nat
  | .joined session => some session
  | .closed | .rejected _ => none

/-- The sessions that were given out. -/
def sessionsOf (visits : List (Channel.Request × Option Joined)) : List Nat :=
  visits.filterMap fun visit => visit.2.bind Joined.session?

/-- Requests to a channel that are carried out one after the other, with what people are told. -/
inductive Visited (index : Nat) (begun : Service) :
    List (Channel.Request × Option Joined) → Service → Prop where
  | none : Visited index begun [] begun
  | visit {visits : List (Channel.Request × Option Joined)} {before after : Service}
      {request : Channel.Request} {told : Option Joined} :
      Visited index begun visits before →
        Ends (perform index request) before (.ok told) after →
        Visited index begun (visits ++ [(request, told)]) after
  /-- other channels, the clock and the archive may change meanwhile -/
  | meanwhile {visits : List (Channel.Request × Option Joined)} {before after : Service} :
      Visited index begun visits before →
        after.channel index = before.channel index →
        before.channels.size ≤ after.channels.size →
        Visited index begun visits after

/-- What is known of a service after visits, from a course with the same requests. -/
structure Hosts
    (index : Nat)
    (begun : Channel.Course)
    (visits : List (Channel.Request × Option Joined))
    (met : List (Channel.Request × Channel.Circumstances))
    (after : Service) :
    Prop where
  loaded : index < after.channels.size
  requests : met.map Prod.fst = visits.map Prod.fst
  channel : (begun.answers met).channel = after.channel index
  increasing : (sessionsOf visits).Pairwise (· < ·)
  given : ∀ session ∈ sessionsOf visits,
    session ≤ (begun.answers met).channel.lastSession

section

variable {index : Nat} {begun : Channel.Course} {after : Service}
  {visits : List (Channel.Request × Option Joined)}

theorem sessionsOf_concat (request : Channel.Request) (told : Option Joined) :
    sessionsOf (visits ++ [(request, told)]) =
      sessionsOf visits ++ (told.bind Joined.session?).toList := by
  rw [sessionsOf, List.filterMap_append, ← sessionsOf]
  cases shown : told.bind Joined.session? <;> simp [shown]

/-- Who is let in has the session after the last one, and it is given out then. -/
theorem given_answer
    {course : Channel.Course}
    (attended : course.Attended)
    {identity : String}
    {viewport : Viewport}
    {address : Net.Address}
    {session : Nat}
    {displaced : Bool}
    {next : Channel}
    (entered : course.channel.enter identity viewport address =
      (.entered session displaced, next))
    (circumstances : Channel.Circumstances) :
    course.channel.lastSession < session ∧
      session ≤ (course.answer
        (.join identity viewport address, circumstances)).channel.lastSession := by
  have given : session = course.channel.lastSession + 1 := (Channel.enter_of_entered entered).1
  refine ⟨by omega, ?_⟩
  have first : (course.step (.enter identity viewport address)).channel.lastSession = session := by
    rw [course.channel_step_enter, entered]
    exact congrArg Channel.Stage.lastSession (Channel.stage_enter entered)
  have stepped : (course.step (.enter identity viewport address)).Attended :=
    Channel.Course.attended_turn attended (.enter identity viewport address)
  have later := Channel.Course.lastSession_le_turns stepped
  rw [first] at later
  rw [Channel.Course.answer, Channel.Course.answering, entered]
  cases displaced with
  | true => exact later (course.redraw circumstances)
  | false =>
      exact later (.record circumstances.now (Message.presence identity .join) ::
        course.redraw circumstances)

theorem Hosts.visit
    {before : Service}
    {met : List (Channel.Request × Channel.Circumstances)}
    (attended : (begun.answers met).Attended)
    (hosts : Hosts index begun visits met before)
    {request : Channel.Request}
    {told : Option Joined}
    (ends : Ends (perform index request) before (.ok told) after) :
    ∃ circumstances,
      Hosts index begun (visits ++ [(request, told)]) (met ++ [(request, circumstances)])
        after := by
  rcases ends_perform attended.inOrder hosts.loaded hosts.channel ends with
    ⟨circumstances, reached, size, joins⟩
  have answers : begun.answers (met ++ [(request, circumstances)]) =
      (begun.answers met).answer (request, circumstances) := by
    rw [Channel.Course.answers, List.foldl_append]
    rfl
  have notBelow : (begun.answers met).channel.lastSession ≤
      ((begun.answers met).answer (request, circumstances)).channel.lastSession :=
    Channel.Course.lastSession_le_turns attended _
  have new (session : Nat) (member : session ∈ (told.bind Joined.session?).toList) :
      (begun.answers met).channel.lastSession < session ∧
        session ≤ ((begun.answers met).answer (request, circumstances)).channel.lastSession := by
    rcases Option.bind_eq_some_iff.mp (Option.mem_toList.mp member) with
      ⟨joined | _ | _, rfl, same⟩
    · cases same
      rcases joins session rfl with
        ⟨identity, viewport, address, displaced, next, rfl, entered⟩
      exact given_answer attended entered circumstances
    · cases same
    · cases same
  refine ⟨circumstances, ?loaded, ?requests, ?channel, ?increasing, ?given⟩
  case loaded =>
    rw [size]
    exact hosts.loaded
  case requests =>
    rw [List.map_append, List.map_append, hosts.requests]
    rfl
  case channel =>
    rw [answers]
    exact reached
  case increasing =>
    rw [sessionsOf_concat]
    refine List.pairwise_append.mpr ⟨hosts.increasing, ?_, ?_⟩
    · cases told.bind Joined.session? <;> simp
    · intro earlier member session joined
      exact Nat.lt_of_le_of_lt (hosts.given earlier member) (new session joined).1
  case given =>
    rw [sessionsOf_concat, answers]
    intro session member
    rcases List.mem_append.mp member with old | joined
    · exact Nat.le_trans (hosts.given session old) notBelow
    · exact (new session joined).2

/-- Requests to a service are a course of the same requests. -/
theorem Visited.hosts
    {started : Service}
    {limit : Nat}
    {history notes : List Message}
    (visited : Visited index started visits after)
    (loaded : index < started.channels.size)
    (same : begun.channel = started.channel index)
    (hosted : begun.Hosted limit history notes) :
    ∃ met, Hosts index begun visits met after := by
  -- Each request tells at its end what it met; the course answers it with that.
  induction visited with
  | none => exact ⟨[], loaded, rfl, same, List.Pairwise.nil, nofun⟩
  | visit _ ends ih =>
      rcases ih with ⟨met, hosts⟩
      rcases hosts.visit (hosted.answers met).attended ends with ⟨circumstances, hosts⟩
      exact ⟨_, hosts⟩
  | meanwhile _ unchanged grown ih =>
      rcases ih with ⟨met, hosts⟩
      refine ⟨met, Nat.lt_of_lt_of_le hosts.loaded grown, hosts.requests, ?_, hosts.increasing,
        hosts.given⟩
      rw [unchanged]
      exact hosts.channel

/-- Nothing is announced if somebody joins whose identity is on the roster. -/
theorem ledger_join_of_present
    {course : Channel.Course}
    {before : Service}
    {limit : Nat}
    {history notes : List Message}
    (hosted : course.Hosted limit history notes)
    (loaded : index < before.channels.size)
    (same : course.channel = before.channel index)
    {identity : String}
    {viewport : Viewport}
    {address : Net.Address}
    {joined : Joined}
    (present : (before.channel index).roster.ofIdentity identity ≠ [])
    (ends : Ends (join index identity viewport address) before (.ok joined) after) :
    (after.channel index).ledger = (before.channel index).ledger := by
  rcases ends_join_turns loaded same ends with ⟨circumstances, reached, -, -⟩
  have answer := Channel.Course.answer_join hosted.attended.inOrder hosted.isOpen circumstances
    identity viewport address
  rw [← same] at present ⊢
  rw [← reached, answer.ledger, answer.answered.silent present]
  rfl

/-- Nothing happens if somebody leaves who is not on the roster. -/
theorem channel_leave_of_unlisted
    {before : Service}
    {session : Nat}
    (loaded : index < before.channels.size)
    (unlisted : (before.channel index).roster.viewer? session = none)
    (ends : Ends (leave index session) before (.ok ()) after) :
    after.channel index = before.channel index := by
  replace ends := ends_act_bind.mp ends
  have removed : (before.channel index).remove session = (none, before.channel index) := by
    rw [Channel.remove, Roster.unregister_of_none unlisted]
  have answer : (withChannel index (·.remove session) before).1 = none :=
    congrArg Prod.fst removed
  rw [answer] at ends
  rcases ends_pure.mp ends with ⟨-, rfl⟩
  rw [channel_withChannel _ loaded, removed]

end

/--
Whoever joins, leaves, writes or has an open channel drawn again, one after the
other: no identity is on the roster more than once, a session that is given out is
above all before and is not refused by the roster, and what the log was told of
an identity is that it came, left, came, and so on, and it is on the roster exactly if it
came last.  A join of somebody who is there and a leave of somebody who is not tell
the log nothing.
-/
theorem presence_alternates
    (name : String)
    (settings : Channel.Settings)
    (history : List Message)
    (active : Seconds)
    (counter : UInt64)
    (notices : PerViewport Frame)
    (instant : Nat)
    {index : Nat}
    {started after : Service}
    {visits : List (Channel.Request × Option Joined)}
    (loaded : index < started.channels.size)
    (fresh : started.channel index =
      Channel.ofHistory name settings history active counter notices instant)
    (visited : Visited index started visits after) :
    let begun := Channel.Course.start name settings history active counter notices instant
    let channel := after.channel index
    (∃ met : List (Channel.Request × Channel.Circumstances),
      met.map Prod.fst = visits.map Prod.fst ∧
        (begun.answers met).channel = channel ∧
        channel.log = Channel.newest settings.historyLimit (history ++ begun.noted met) ∧
        ∀ identity,
          (∃ count, Channel.announcements identity (begun.noted met) =
            Channel.comingAndGoing count) ∧
          (channel.roster.ofIdentity identity ≠ [] ↔
            (Channel.announcements identity (begun.noted met)).getLast? = some .join)) ∧
      (∀ identity, (channel.roster.ofIdentity identity).length ≤ 1 ∧
        (channel.roster.viewers.filter fun viewer => viewer.identity = identity).length ≤ 1) ∧
      (sessionsOf visits).Pairwise (· < ·) ∧
      (∀ identity viewport address session displaced next,
        channel.enter identity viewport address = (.entered session displaced, next) →
          (∀ earlier ∈ sessionsOf visits, earlier < session) ∧
          (((channel.roster.ofIdentity identity).foldl Channel.displace channel).roster.register
            ⟨session, identity, viewport, address⟩).1 = true) ∧
      (∀ identity viewport address joined next,
        channel.roster.ofIdentity identity ≠ [] →
          Ends (join index identity viewport address) after (.ok joined) next →
          (next.channel index).ledger = channel.ledger) ∧
      ∀ session next,
        channel.roster.viewer? session = none →
          Ends (leave index session) after (.ok ()) next →
          next.channel index = channel := by
  intro begun channel
  have hosted : begun.Hosted settings.historyLimit history [] := Channel.Course.hosted_start ..
  rcases visited.hosts loaded fresh.symm hosted with ⟨met, hosts⟩
  have reached := hosted.answers met
  rw [List.nil_append] at reached
  have same : (begun.answers met).channel = channel := hosts.channel
  have inOrder : channel.reception.InOrder := same ▸ reached.attended.inOrder
  refine ⟨⟨met, hosts.requests, hosts.channel, same ▸ reached.log, ?told⟩, ?once,
    hosts.increasing, ?unused, ?rejoining, ?leaving⟩
  case told =>
    intro identity
    have present := reached.present_iff identity
    rw [same] at present
    exact present
  case once =>
    intro identity
    exact ⟨inOrder.length_ofIdentity identity, inOrder.length_filter_viewers identity⟩
  case unused =>
    intro identity viewport address session displaced next entered
    refine ⟨fun earlier member => ?_, Channel.register_of_entered inOrder entered⟩
    have given := hosts.given earlier member
    rw [same] at given
    have last := (Channel.enter_of_entered entered).1
    omega
  case rejoining =>
    intro identity viewport address joined next present ends
    exact ledger_join_of_present reached hosts.loaded hosts.channel present ends
  case leaving =>
    intro session next unlisted ends
    exact channel_leave_of_unlisted hosts.loaded unlisted ends

/-- Somebody comes to an empty channel, and the last that the log is told of it is just that. -/
theorem presence_alternates_for_newcomer :
    ∃ (after : Service) (visits : List (Channel.Request × Option Joined))
      (met : List (Channel.Request × Channel.Circumstances)),
      0 < (hosting Channel.Course.quiet.channel).channels.size ∧
      Visited 0 (hosting Channel.Course.quiet.channel) visits after ∧
      sessionsOf visits = [1] ∧
      met.map Prod.fst = visits.map Prod.fst ∧
      (Channel.Course.quiet.answers met).channel = after.channel 0 ∧
      (∃ count, Channel.announcements "ann" (Channel.Course.quiet.noted met) =
        Channel.comingAndGoing count) ∧
      (Channel.announcements "ann" (Channel.Course.quiet.noted met)).getLast? = some .join ∧
      ∀ next, Ends (leave 0 2) after (.ok ()) next → next.channel 0 = after.channel 0 := by
  let request : Channel.Request := .join "ann" .narrow (.v4 192 0 2 1)
  have arrives : (Service.run (perform 0 request) (hosting Channel.Course.quiet.channel)).1 =
      .ok (some (.joined 1)) := rfl
  have visited := Visited.none.visit (.of_run arrives)
  rcases presence_alternates "lobby" .standard [] 0 0 ⟨Frame.empty .narrow, Frame.empty .wide⟩ 0
    (by decide) rfl visited with ⟨⟨met, requests, channel, -, told⟩, -, -, -, -, leaving⟩
  have present : ((Service.run (perform 0 request) (hosting Channel.Course.quiet.channel)).2.channel
      0).roster.ofIdentity "ann" ≠ [] := by decide +kernel
  have unlisted : ((Service.run (perform 0 request) (hosting Channel.Course.quiet.channel)).2.channel
      0).roster.viewer? 2 = none := by decide +kernel
  exact ⟨_, _, met, by decide, visited, rfl, requests, channel, (told "ann").1,
    (told "ann").2.mp present, fun next => leaving 2 next unlisted⟩

end FrameChat.Service
