import FrameChat.Proofs.Channel.Endings
import FrameChat.Proofs.Service.Visits

/-!
# Joining

There are three ways in which a join goes.  Somebody is turned away, and then
nothing at all happens to the channel.  Or somebody takes the place of a session
of the same identity: that session goes off the roster, is told so, and receives
nothing after that but the end, while everybody else stays.  Or somebody is new
on the roster and is announced.  Which way it goes depends only on whether the
channel is closed and on who is on the roster (`join_cases`).
-/

namespace FrameChat

namespace Channel.Course

variable {course : Course} {identity : String} {address : Net.Address} {viewer : Viewer}

/-- Drawing a channel again does nothing to those who are off the roster. -/
theorem left_redraw
    (attended : course.Attended)
    {session : Nat}
    {notice : Option Stamped}
    (left : (course.standing session).Left notice)
    (circumstances : Circumstances)
    (pick : Nat) :
    let after := course.turns [.snapshot circumstances.instant,
      .publish pick circumstances.drawn circumstances.renderMs]
    (after.standing session).Left notice ∧ after.received session = course.received session := by
  intro after
  have taken : (course.step (.snapshot circumstances.instant)).Attended :=
    attended_turn attended (.snapshot circumstances.instant)
  rcases moved_publish taken.inOrder pick circumstances.drawn circumstances.renderMs session with
    ⟨new, moved⟩
  constructor
  · rcases moved.move.of_left left with ⟨-, still⟩ | ⟨_, impossible, -⟩
    · exact still
    · cases impossible
  · have received := moved.received
    rw [Option.toList_none, List.append_nil] at received
    exact received

/-- The session whose place is taken is off the roster, with the notice in its mailbox. -/
theorem left_displacing
    (attended : course.Attended)
    (isOpen : course.channel.closed = false)
    (alone : course.channel.roster.ofIdentity identity = [viewer])
    (here : viewer.address = address)
    (viewport : Viewport)
    (circumstances : Circumstances) :
    let after := course.turns (course.answering circumstances (.join identity viewport address))
    (after.standing viewer.session).Left
        (some (.ofNotice (course.channel.notices.get viewer.viewport))) ∧
      after.received viewer.session = course.received viewer.session := by
  intro after
  have given := attended.inOrder.given viewer.session viewer
    (attended.inOrder.ofIdentity_mem alone).1
  have standing := standing_displacing attended.inOrder isOpen alone here viewport given
  rw [if_pos rfl] at standing
  have moved := moved_enter attended.inOrder identity viewport address given
  have entering : (course.step (.enter identity viewport address)).Attended :=
    attended_turn attended (.enter identity viewport address)
  have left : ((course.step (.enter identity viewport address)).standing viewer.session).Left
      (some (.ofNotice (course.channel.notices.get viewer.viewport))) := by
    rw [standing]
    exact ⟨rfl, rfl, rfl, rfl⟩
  have turns : course.answering circumstances (.join identity viewport address) =
      .enter identity viewport address :: course.redraw circumstances := by
    rw [answering, enter_displacing isOpen alone here]
  rcases left_redraw entering left circumstances course.drawing.length with
    ⟨still, received⟩
  have whole : after = (course.step (.enter identity viewport address)).turns
      (course.redraw circumstances) := by
    show course.turns (course.answering circumstances (.join identity viewport address)) = _
    rw [turns]
    rfl
  rw [whole]
  refine ⟨still, received.trans ?_⟩
  rw [moved.received, Option.toList_none, List.append_nil]

/-- Who is off the roster is told so first. -/
theorem Attended.receive_of_left
    (attended : course.Attended)
    {session : Nat}
    {notice : Stamped}
    (left : (course.standing session).Left (some notice)) :
    (course.channel.mailbox session).receive.1 = some (.displaced notice.frame) := by
  have waits : (course.boxes session).notice = some notice := left.notice
  rw [attended.faithful.mailboxes session, Mailbox.receive_map,
    Mailbox.receive_of_notice waits]
  rfl

/-- Who is off the roster receives the notice once, and then only the end. -/
theorem Attended.delivered_of_left
    (attended : course.Attended)
    {session : Nat}
    (given : session ≤ course.channel.lastSession)
    {notice : Stamped}
    (left : (course.standing session).Left (some notice))
    (actions : List Action) :
    ∃ later, (course.turns actions).delivered session = course.delivered session ++ later ∧
      (later = [] ∨ ∃ count,
        later = .displaced notice.frame :: List.replicate count .closed) := by
  rcases received_turns_of_left attended given left actions with ⟨later, received, shape⟩
  refine ⟨later.map (Delivery.map Stamped.frame), ?_, ?_⟩
  · rw [(attended_turns attended actions).faithful.delivered_eq, received, List.map_append,
      attended.faithful.delivered_eq]
  · rcases shape with rfl | ⟨count, rfl⟩
    · exact Or.inl rfl
    · refine Or.inr ⟨count, ?_⟩
      simp [Delivery.map]

end Channel.Course

namespace Service

open Operation

/-- A join that can read the clock returns. -/
theorem run_join
    (index : Nat)
    (identity : String)
    (viewport : Viewport)
    (address : Net.Address)
    (before : Service) :
    ∃ joined, (Service.run (join index identity viewport address) before).1 = .ok joined :=
  (steady_join index identity viewport address).run Service.clock before

/-! ## How joins go -/

section

variable {index : Nat} {before after : Service} {course : Channel.Course}
  {identity : String} {viewport : Viewport} {address : Net.Address} {joined : Joined}

/-- Who is turned away leaves the channel as it was. -/
theorem channel_join_of_refused
    (loaded : index < before.channels.size)
    (same : course.channel = before.channel index)
    (ends : Ends (join index identity viewport address) before (.ok joined) after)
    (refused : ∀ session, joined ≠ .joined session) :
    after.channel index = before.channel index := by
  rcases ends_join_turns loaded same ends with ⟨circumstances, reached, -, tells⟩
  rw [← reached, ← same, Channel.Course.answering]
  generalize (course.channel.enter identity viewport address).1 = entry at tells
  cases tells with
  | closed => rfl
  | rejected notice => rfl
  | joined session displaced => exact absurd rfl (refused session)

theorem joined_iff
    (inOrder : course.channel.reception.InOrder)
    (loaded : index < before.channels.size)
    (same : course.channel = before.channel index)
    (ends : Ends (join index identity viewport address) before (.ok joined) after) :
    (joined = .closed ↔ course.channel.closed = true) ∧
      ((∃ notice, joined = .rejected notice) ↔ course.channel.closed = false ∧
        ∃ viewer ∈ course.channel.roster.viewers,
          viewer.identity = identity ∧ viewer.address ≠ address) ∧
      ∀ session, joined = .joined session → session = course.channel.lastSession + 1 := by
  rcases ends_join_turns loaded same ends with ⟨circumstances, -, -, tells⟩
  have listed {viewer : Viewer} (alone : course.channel.roster.ofIdentity identity = [viewer]) :
      viewer ∈ course.channel.roster.viewers ∧ viewer.identity = identity := by
    rcases inOrder.ofIdentity_mem alone with ⟨found, own⟩
    exact ⟨inOrder.exact.mem_viewers.mpr found, own⟩
  have alone_of {viewer : Viewer} (member : viewer ∈ course.channel.roster.viewers)
      (own : viewer.identity = identity) :
      course.channel.roster.ofIdentity identity = [viewer] :=
    own ▸ inOrder.ofIdentity_eq_singleton (inOrder.exact.mem_viewers.mp member)
  have admission := Channel.admission_enter inOrder identity viewport address
  generalize (course.channel.enter identity viewport address).1 = entry at tells admission
  generalize (course.channel.enter identity viewport address).2 = next at admission
  cases admission with
  | closed closed =>
      cases tells
      refine ⟨iff_of_true rfl closed, iff_of_false nofun ?_, nofun⟩
      rintro ⟨isOpen, -⟩
      exact nomatch closed.symm.trans isOpen
  | @rejected viewer isOpen alone elsewhere =>
      cases tells with
      | rejected notice =>
          refine ⟨iff_of_false nofun ?_, iff_of_true ⟨notice, rfl⟩ ?_, nofun⟩
          · rw [isOpen]
            exact nofun
          · rcases listed alone with ⟨member, own⟩
            exact ⟨isOpen, viewer, member, own, elsewhere⟩
  | fresh isOpen none =>
      cases tells
      refine ⟨iff_of_false nofun ?_, iff_of_false nofun ?_, ?_⟩
      · rw [isOpen]
        exact nofun
      · rintro ⟨-, viewer, member, own, -⟩
        exact nomatch none.symm.trans (alone_of member own)
      · rintro session ⟨rfl⟩
        rfl
  | @displacing viewer isOpen alone here =>
      cases tells
      refine ⟨iff_of_false nofun ?_, iff_of_false nofun ?_, ?_⟩
      · rw [isOpen]
        exact nofun
      · rintro ⟨-, other, member, own, elsewhere⟩
        cases alone.symm.trans (alone_of member own)
        exact elsewhere here
      · rintro session ⟨rfl⟩
        rfl

/-- Who takes the place of a session of the same identity changes nothing for anybody else. -/
theorem join_displacing
    (attended : course.Attended)
    (isOpen : course.channel.closed = false)
    (loaded : index < before.channels.size)
    (same : course.channel = before.channel index)
    {viewer : Viewer}
    (alone : course.channel.roster.ofIdentity identity = [viewer])
    (here : viewer.address = address)
    (ends : Ends (join index identity viewport address) before (.ok joined) after) :
    (∀ session, (after.channel index).roster.viewer? session =
      if session = course.channel.lastSession + 1 then
        some ⟨course.channel.lastSession + 1, identity, viewport, address⟩
      else if session = viewer.session then none
      else course.channel.roster.viewer? session) ∧
    (after.channel index).roster.count = course.channel.roster.count ∧
    (after.channel index).ledger = course.channel.ledger ∧
    ((after.channel index).mailbox viewer.session).receive.1 =
      some (.displaced (course.channel.notices.get viewer.viewport)) ∧
    ∃ joining, (course.turns joining).channel = after.channel index ∧
      ∀ rest, ∃ later,
        ((course.turns joining).turns rest).delivered viewer.session =
          course.delivered viewer.session ++ later ∧
        (later = [] ∨ ∃ count,
          later = .displaced (course.channel.notices.get viewer.viewport) ::
            List.replicate count .closed) := by
  rcases ends_join_turns loaded same ends with ⟨circumstances, reached, -, -⟩
  have inOrder := attended.inOrder
  rcases inOrder.ofIdentity_mem alone with ⟨found, -⟩
  have given := inOrder.given viewer.session viewer found
  have dismissed := inOrder.dismiss viewer.session
  have answer := Channel.Course.answer_join inOrder isOpen circumstances identity viewport address
  have reception := answer.answered.of_displacing alone here
  have present : course.channel.roster.ofIdentity identity ≠ [] := by
    rw [alone]
    exact List.cons_ne_nil viewer []
  have ledger := answer.ledger
  rw [answer.answered.silent present, reached] at ledger
  rw [reached] at reception
  have roster : (after.channel index).roster = _ := congrArg Channel.Reception.roster reception
  rcases Channel.Course.left_displacing attended isOpen alone here viewport circumstances with
    ⟨left, received⟩
  have joinedAttended := Channel.Course.attended_turns attended
    (course.answering circumstances (.join identity viewport address))
  have stillGiven := Nat.le_trans given (Channel.Course.lastSession_le_turns attended
    (course.answering circumstances (.join identity viewport address)))
  refine ⟨fun session => ?_, ?_, ledger, ?_, _, reached, fun rest => ?_⟩
  · rw [roster]
    refine (dismissed.viewer?_welcome identity viewport address session).trans ?_
    exact congrArg (ite _ _) (Roster.viewer?_unregister course.channel.roster viewer.session
      session)
  · rw [roster]
    refine (Roster.count_register dismissed.unused).trans ?_
    exact inOrder.exact.count_unregister found
  · rw [← reached]
    exact joinedAttended.receive_of_left left
  · rcases joinedAttended.delivered_of_left stillGiven left rest with ⟨later, delivered, shape⟩
    refine ⟨later, ?_, shape⟩
    rw [delivered, joinedAttended.faithful.delivered_eq, received,
      ← attended.faithful.delivered_eq]

/-- Who is new on the roster is announced. -/
theorem join_absent
    (attended : course.Attended)
    (isOpen : course.channel.closed = false)
    (loaded : index < before.channels.size)
    (same : course.channel = before.channel index)
    (absent : course.channel.roster.ofIdentity identity = [])
    (ends : Ends (join index identity viewport address) before (.ok joined) after) :
    (∀ session, (after.channel index).roster.viewer? session =
      if session = course.channel.lastSession + 1 then
        some ⟨course.channel.lastSession + 1, identity, viewport, address⟩
      else course.channel.roster.viewer? session) ∧
    (after.channel index).roster.count = course.channel.roster.count + 1 ∧
    ∃ message, course.channel.ledger.Numbers (.presence identity .join) message ∧
      (after.channel index).ledger = course.channel.ledger.add message := by
  rcases ends_join_turns loaded same ends with ⟨circumstances, reached, -, -⟩
  have inOrder := attended.inOrder
  have answer := Channel.Course.answer_join inOrder isOpen circumstances identity viewport address
  rcases answer.answered.of_absent absent with ⟨reception, message, recorded, numbers⟩
  have ledger := answer.ledger
  rw [recorded, reached] at ledger
  rw [reached] at reception
  have roster : (after.channel index).roster = _ := congrArg Channel.Reception.roster reception
  refine ⟨fun session => ?_, ?_, message, numbers, ledger⟩
  · rw [roster]
    exact inOrder.viewer?_welcome identity viewport address session
  · rw [roster]
    exact Roster.count_register inOrder.unused

end

/--
A join that can read the clock returns, and nothing can have happened but this: the channel
is closed, or the identity is connected from another address, and all stays as it
was; or the identity was connected from the same address, and exactly its session
is gone, is told so next and receives nothing after that but the end, while the
log and the number of viewers stay; or nobody of the identity was there, and there
is one viewer more and one announcement more.
-/
theorem join_cases
    (name : String)
    (settings : Channel.Settings)
    (history : List Message)
    (active : Seconds)
    (counter : UInt64)
    (notices : PerViewport Frame)
    (instant : Nat)
    (actions : List Channel.Action)
    {index : Nat}
    {before : Service}
    (loaded : index < before.channels.size)
    (reached : before.channel index =
      ((Channel.Course.start name settings history active counter notices instant).turns
        actions).channel)
    (identity : String)
    (viewport : Viewport)
    (address : Net.Address) :
    let begun := Channel.Course.start name settings history active counter notices instant
    let channel := before.channel index
    let newcomer : Viewer := ⟨channel.lastSession + 1, identity, viewport, address⟩
    (∃ joined, (Service.run (join index identity viewport address) before).1 = .ok joined) ∧
      ∀ joined after,
        Ends (join index identity viewport address) before (.ok joined) after →
        ((∀ session, joined ≠ .joined session) → after.channel index = channel) ∧
        (joined = .closed ↔ channel.closed = true) ∧
        ((∃ notice, joined = .rejected notice) ↔ channel.closed = false ∧
          ∃ viewer ∈ channel.roster.viewers,
            viewer.identity = identity ∧ viewer.address ≠ address) ∧
        (∀ session, joined = .joined session → session = newcomer.session) ∧
        (∀ viewer ∈ channel.roster.viewers,
          channel.closed = false → viewer.identity = identity → viewer.address = address →
          (∀ session, (after.channel index).roster.viewer? session =
            if session = newcomer.session then some newcomer
            else if session = viewer.session then none
            else channel.roster.viewer? session) ∧
          (after.channel index).roster.count = channel.roster.count ∧
          (after.channel index).ledger = channel.ledger ∧
          ((after.channel index).mailbox viewer.session).receive.1 =
            some (.displaced (channel.notices.get viewer.viewport)) ∧
          ∃ joining, (begun.turns (actions ++ joining)).channel = after.channel index ∧
            ∀ rest, ∃ later,
              (begun.turns (actions ++ joining ++ rest)).delivered viewer.session =
                (begun.turns actions).delivered viewer.session ++ later ∧
              (later = [] ∨ ∃ count,
                later = .displaced (channel.notices.get viewer.viewport) ::
                  List.replicate count .closed)) ∧
        ((∀ viewer ∈ channel.roster.viewers, viewer.identity ≠ identity) →
          channel.closed = false →
          (∀ session, (after.channel index).roster.viewer? session =
            if session = newcomer.session then some newcomer
            else channel.roster.viewer? session) ∧
          (after.channel index).roster.count = channel.roster.count + 1 ∧
          ∃ message, channel.ledger.Numbers (.presence identity .join) message ∧
            (after.channel index).ledger = channel.ledger.add message) := by
  intro begun channel newcomer
  have attended : (begun.turns actions).Attended :=
    Channel.Course.attended_turns (Channel.Course.attended_start ..) actions
  have same : (begun.turns actions).channel = channel := reached.symm
  have inOrder : channel.reception.InOrder := same ▸ attended.inOrder
  refine ⟨run_join index identity viewport address before, fun joined after ends => ?_⟩
  rcases joined_iff attended.inOrder loaded same ends with ⟨closed, rejected, session⟩
  rw [same] at closed rejected session
  refine ⟨channel_join_of_refused loaded same ends, closed, rejected, session, ?_, ?_⟩
  · intro viewer member isOpen own here
    have alone : channel.roster.ofIdentity identity = [viewer] :=
      own ▸ inOrder.ofIdentity_eq_singleton (inOrder.exact.mem_viewers.mp member)
    have displacing := join_displacing attended (same.symm ▸ isOpen) loaded same
      (same.symm ▸ alone) here ends
    rw [same] at displacing
    rcases displacing with ⟨roster, count, ledger, told, joining, joined, later⟩
    refine ⟨roster, count, ledger, told, joining, ?_, fun rest => ?_⟩
    · rw [Channel.Course.turns_append]
      exact joined
    · rw [Channel.Course.turns_append, Channel.Course.turns_append]
      exact later rest
  · intro others isOpen
    have absent : channel.roster.ofIdentity identity = [] := by
      apply List.eq_nil_iff_forall_not_mem.mpr
      intro viewer member
      rcases inOrder.exact.mem_ofIdentity.mp member with ⟨found, own⟩
      exact others viewer (inOrder.exact.mem_viewers.mpr found) own
    have new := join_absent attended (same.symm ▸ isOpen) loaded same (same.symm ▸ absent) ends
    rw [same] at new
    exact new

/-- Somebody who watches opens a second window, and the first one is told so. -/
theorem join_cases_for_second_window :
    let watched := Channel.Course.quiet.turns [.enter "ann" .narrow (.v4 192 0 2 1)]
    ∃ joined after,
      0 < (hosting watched.channel).channels.size ∧
      (hosting watched.channel).channel 0 = watched.channel ∧
      Ends (join 0 "ann" .wide (.v4 192 0 2 1)) (hosting watched.channel) (.ok joined) after ∧
      (after.channel 0).roster.viewer? 1 = none ∧
      (after.channel 0).roster.viewer? 2 = some ⟨2, "ann", .wide, .v4 192 0 2 1⟩ ∧
      (after.channel 0).roster.count = 1 ∧
      (after.channel 0).ledger = watched.channel.ledger ∧
      ((after.channel 0).mailbox 1).receive.1 = some (.displaced (Frame.empty .narrow)) := by
  intro watched
  rcases join_cases "lobby" .standard [] 0 0 ⟨Frame.empty .narrow, Frame.empty .wide⟩ 0
      [.enter "ann" .narrow (.v4 192 0 2 1)] (Nat.zero_lt_one : 0 < 1)
      (rfl : (hosting watched.channel).channel 0 = _) "ann" .wide (.v4 192 0 2 1) with
    ⟨⟨joined, returned⟩, cases⟩
  have ends := Ends.of_run returned
  rcases cases joined _ ends with ⟨-, -, -, -, displacing, -⟩
  have member : (⟨1, "ann", .narrow, .v4 192 0 2 1⟩ : Viewer) ∈
      ((hosting watched.channel).channel 0).roster.viewers := by decide +kernel
  rcases displacing _ member rfl rfl rfl with ⟨roster, count, ledger, told, -⟩
  exact ⟨joined, _, Nat.zero_lt_one, rfl, ends, roster 1, roster 2, count, ledger, told⟩

end Service

end FrameChat
