import FrameChat.Proofs.Channel.Announcements
import FrameChat.Proofs.Service.Footprints
import FrameChat.Proofs.Service.Refreshing

/-!
# Requests as turns

A request to a service that is carried out from beginning to end works on its
channel as some turns do, one after the other.  There is one lemma for each kind
of request, and each says of a course with the same channel that after the turns
of the request it has the same channel again (`ends_perform`).  What courses say
of requests is therefore said of the service.
-/

namespace FrameChat

namespace Channel.Course

theorem drawing_step_enter
    (course : Course)
    (identity : String)
    (viewport : Viewport)
    (address : Net.Address) :
    (course.step (.enter identity viewport address)).drawing = course.drawing := by
  rw [step]
  split <;> rfl

theorem drawing_turn_closeMailbox (course : Course) (session : Nat) :
    (course.turn (.closeMailbox session)).drawing = course.drawing := by
  apply holds_turn fun after => after.drawing = course.drawing
  · rfl
  · rfl

/-- The mailbox of a session may be closed as soon as it is off the roster. -/
theorem permits_closeMailbox
    {course : Course}
    {session : Nat}
    {viewer : Viewer}
    (inOrder : course.channel.reception.InOrder)
    (found : course.channel.roster.viewer? session = some viewer) :
    (course.step (.remove session)).channel.permits (.closeMailbox session) = true := by
  have removed : (course.step (.remove session)).channel.reception =
      course.channel.reception.dismiss session := reception_remove course.channel session
  have sameSession : (course.step (.remove session)).channel.lastSession =
      course.channel.lastSession := congrArg Reception.lastSession removed
  have roster : (course.step (.remove session)).channel.roster =
      (course.channel.roster.unregister session).2 := congrArg Reception.roster removed
  have given : session ≤ course.channel.lastSession := inOrder.given session viewer found
  rw [permits, roster, Roster.viewer?_unregister, if_pos rfl, sameSession, decide_eq_true given]
  rfl

end Channel.Course

namespace Service

open Operation

/-! ## Appending and refreshing -/

theorem ends_append_channel
    {index : Nat}
    {message : Message}
    {before after : Service}
    {reply : Except AppendFault Message}
    (loaded : index < before.channels.size)
    (ends : Ends (append index message) before (.ok reply) after) :
    ∃ now, after.channel index = ((before.channel index).record now message).2 ∧
      after.channels.size = before.channels.size := by
  rcases ends_now_bind.mp ends with ⟨now, ends⟩
  replace ends := ends_act_bind.mp ends
  have kept := ends.keeps (keeps_persist Service.channels (fun _ _ => rfl) index now _)
  refine ⟨now, ?_, ?_⟩
  · rw [← channel_withChannel (·.record now message) loaded, Service.channel, kept,
      Service.channel]
  · rw [kept, size_withChannel]

theorem ends_redraw
    {index : Nat}
    {before after : Service}
    {published : Bool}
    {course : Channel.Course}
    {pick : Nat}
    (loaded : index < before.channels.size)
    (same : course.channel = before.channel index)
    (last : course.drawing.length = pick)
    (ends : Ends (refresh index) before (.ok published) after) :
    ∃ instant drawn renderMs,
      (course.turns [.snapshot instant, .publish pick drawn renderMs]).channel =
        after.channel index ∧
      after.channels.size = before.channels.size := by
  rcases ends_refresh loaded ends same with ⟨drawn, renderMs, reached⟩
  rw [last] at reached
  exact ⟨before.instant, drawn, renderMs, reached, ends.keeps keeps_size_refresh⟩

/-- A message is appended and the channel is drawn again. -/
theorem ends_append_redraw
    {index : Nat}
    {message : Message}
    {before middle after : Service}
    {course : Channel.Course}
    {pick : Nat}
    (loaded : index < before.channels.size)
    (same : course.channel = before.channel index)
    (last : course.drawing.length = pick)
    (appending : Ends (discard (append index message)) before (.ok ()) middle)
    (refreshing : Ends (discard (refresh index)) middle (.ok ()) after) :
    ∃ circumstances : Channel.Circumstances,
      (course.turns [.record circumstances.now message, .snapshot circumstances.instant,
        .publish pick circumstances.drawn circumstances.renderMs]).channel =
          after.channel index ∧
      after.channels.size = before.channels.size := by
  rcases ends_discard.mp appending with ⟨reply, appending⟩
  rcases ends_discard.mp refreshing with ⟨published, refreshing⟩
  rcases ends_append_channel loaded appending with ⟨now, recorded, size⟩
  have reached : (course.step (.record now message)).channel = middle.channel index := by
    rw [recorded, ← same]
    rfl
  rcases ends_redraw (size ▸ loaded) reached last refreshing with
    ⟨instant, drawn, renderMs, redrawn, sameSize⟩
  exact ⟨⟨now, instant, drawn, renderMs⟩, redrawn, sameSize.trans size⟩

/-! ## Coming and going -/

/-- What somebody is told who came to watch. -/
inductive Tells : Channel.Entry → Joined → Prop where
  | closed : Tells .closed .closed
  | rejected (notice : Frame) : Tells .rejected (.rejected notice)
  | joined (session : Nat) (displaced : Bool) :
      Tells (.entered session displaced) (.joined session)

theorem ends_join_turns
    {index : Nat}
    {identity : String}
    {viewport : Viewport}
    {address : Net.Address}
    {before after : Service}
    {joined : Joined}
    {course : Channel.Course}
    (loaded : index < before.channels.size)
    (same : course.channel = before.channel index)
    (ends : Ends (join index identity viewport address) before (.ok joined) after) :
    ∃ circumstances,
      (course.turns (course.answering circumstances
        (.join identity viewport address))).channel = after.channel index ∧
      after.channels.size = before.channels.size ∧
      Tells (course.channel.enter identity viewport address).1 joined := by
  replace ends := ends_act_bind.mp ends
  have entering := course.channel_step_enter identity viewport address
  have entered := channel_withChannel (·.enter identity viewport address) loaded
  have size := size_withChannel index (·.enter identity viewport address) before
  have answer : (withChannel index (·.enter identity viewport address) before).1 =
      (course.channel.enter identity viewport address).1 := by
    rw [same]
    rfl
  rw [answer] at ends
  rw [← same] at entered
  generalize (withChannel index (·.enter identity viewport address) before).2 = middle
    at ends entered size
  cases outcome : course.channel.enter identity viewport address with
  | mk entry next =>
      rw [outcome] at ends entering entered
      cases entry with
      | closed =>
          rcases ends_pure.mp ends with ⟨rfl, rfl⟩
          refine ⟨⟨0, 0, .both none, 0⟩, ?_, size, .closed⟩
          rw [Channel.Course.answering, outcome]
          exact (entered.trans (Channel.enter_of_not_entered outcome (by simp))).symm
      | rejected =>
          have faceless : Faceless Service.channels := fun _ _ => rfl
          rcases ends.after (keeps_renderNotice faceless _ _) with ⟨notice, _, unchanged, ends⟩
          rcases ends_pure.mp ends with ⟨rfl, rfl⟩
          refine ⟨⟨0, 0, .both none, 0⟩, ?_, ?_, .rejected notice⟩
          · rw [Channel.Course.answering, outcome, Service.channel, unchanged]
            exact (entered.trans (Channel.enter_of_not_entered outcome (by simp))).symm
          · rw [unchanged]
            exact size
      | entered session displaced =>
          have reached := entering.trans entered.symm
          have last : (course.step (.enter identity viewport address)).drawing.length =
              course.drawing.length := by
            rw [course.drawing_step_enter]
          cases displaced with
          | true =>
              rcases ends_bind.mp ends with ⟨_, redrawn, refreshing, ends⟩
              rcases ends_discard.mp refreshing with ⟨published, refreshing⟩
              rcases ends_pure.mp ends with ⟨rfl, rfl⟩
              rcases ends_redraw (size ▸ loaded) reached last refreshing with
                ⟨instant, drawn, renderMs, whole, sameSize⟩
              refine ⟨⟨0, instant, drawn, renderMs⟩, ?_, sameSize.trans size, .joined _ _⟩
              rw [Channel.Course.answering, outcome]
              exact whole
          | false =>
              rcases ends_bind.mp ends with ⟨_, announced, announcing, ends⟩
              rcases ends_bind.mp ends with ⟨_, redrawn, refreshing, ends⟩
              rcases ends_pure.mp ends with ⟨rfl, rfl⟩
              rcases ends_append_redraw (size ▸ loaded) reached last announcing refreshing with
                ⟨circumstances, whole, sameSize⟩
              refine ⟨circumstances, ?_, sameSize.trans size, .joined _ _⟩
              rw [Channel.Course.answering, outcome]
              exact whole

theorem ends_leave_turns
    {index session : Nat}
    {before after : Service}
    {course : Channel.Course}
    (inOrder : course.channel.reception.InOrder)
    (loaded : index < before.channels.size)
    (same : course.channel = before.channel index)
    (ends : Ends (leave index session) before (.ok ()) after) :
    ∃ circumstances,
      (course.turns (course.answering circumstances (.leave session))).channel =
        after.channel index ∧
      after.channels.size = before.channels.size := by
  replace ends := ends_act_bind.mp ends
  have removed := channel_withChannel (·.remove session) loaded
  have size := size_withChannel index (·.remove session) before
  have answer : (withChannel index (·.remove session) before).1 =
      (course.channel.remove session).1 := by
    rw [same]
    rfl
  rw [answer] at ends
  rw [← same] at removed
  generalize (withChannel index (·.remove session) before).2 = middle at ends removed size
  have gone : (course.channel.remove session).1 = course.channel.roster.viewer? session := by
    rw [← Roster.unregister_fst, Channel.remove]
    split
    case h_1 outcome => rw [outcome]
    case h_2 outcome => rw [outcome]
  rw [gone] at ends
  cases found : course.channel.roster.viewer? session with
  | none =>
      rw [found] at ends
      rcases ends_pure.mp ends with ⟨-, rfl⟩
      refine ⟨⟨0, 0, .both none, 0⟩, ?_, size⟩
      rw [Channel.Course.answering, found, removed, Channel.remove,
        Roster.unregister_of_none found]
      rfl
  | some viewer =>
      rw [found] at ends
      rcases ends_bind.mp ends with ⟨_, shut, shutting, ends⟩
      rcases ends_bind.mp ends with ⟨_, announced, announcing, refreshing⟩
      rcases ends_act.mp shutting with ⟨-, rfl⟩
      have stillLoaded : index < middle.channels.size := size ▸ loaded
      have shutSize := size_withChannel index (fun channel => ((), channel.closeMailbox session))
        middle
      have reached : ((course.step (.remove session)).turn (.closeMailbox session)).channel =
          (withChannel index (fun channel => ((), channel.closeMailbox session))
            middle).2.channel index := by
        rw [channel_withChannel _ stillLoaded, removed, Channel.Course.turn,
          if_pos (Channel.Course.permits_closeMailbox inOrder found)]
        rfl
      have last : ((course.step (.remove session)).turn
          (.closeMailbox session)).drawing.length = course.drawing.length := by
        rw [Channel.Course.drawing_turn_closeMailbox]
        rfl
      rcases ends_append_redraw (shutSize ▸ stillLoaded) reached last announcing refreshing with
        ⟨circumstances, whole, sameSize⟩
      refine ⟨circumstances, ?_, sameSize.trans (shutSize.trans size)⟩
      rw [Channel.Course.answering, found]
      exact whole

/-! ## Requests of all kinds -/

/-- Carry out a request; what somebody is told who comes to watch is returned. -/
def perform (index : Nat) : Channel.Request → Op (Option Joined)
  | .join identity viewport address => do
      let joined ← join index identity viewport address
      return some joined
  | .leave session => do
      leave index session
      return none
  | .write author text => do
      discard (append index (Message.written author text))
      return none
  | .refresh => do
      discard (refresh index)
      return none

theorem ends_perform
    {index : Nat}
    {request : Channel.Request}
    {before after : Service}
    {told : Option Joined}
    {course : Channel.Course}
    (inOrder : course.channel.reception.InOrder)
    (loaded : index < before.channels.size)
    (same : course.channel = before.channel index)
    (ends : Ends (perform index request) before (.ok told) after) :
    ∃ circumstances,
      (course.answer (request, circumstances)).channel = after.channel index ∧
      after.channels.size = before.channels.size ∧
      ∀ session, told = some (.joined session) →
        ∃ identity viewport address displaced next,
          request = .join identity viewport address ∧
          course.channel.enter identity viewport address = (.entered session displaced, next) := by
  cases request with
  | join identity viewport address =>
      rcases ends_bind.mp ends with ⟨joined, _, joining, ends⟩
      rcases ends_pure.mp ends with ⟨rfl, rfl⟩
      rcases ends_join_turns loaded same joining with ⟨circumstances, reached, size, tells⟩
      refine ⟨circumstances, reached, size, ?_⟩
      rintro session ⟨rfl⟩
      cases outcome : course.channel.enter identity viewport address with
      | mk entry next =>
          rw [outcome] at tells
          cases tells with
          | joined _ displaced => exact ⟨_, _, _, displaced, next, rfl, outcome⟩
  | leave session =>
      rcases ends_bind.mp ends with ⟨_, _, leaving, ends⟩
      rcases ends_pure.mp ends with ⟨rfl, rfl⟩
      rcases ends_leave_turns inOrder loaded same leaving with ⟨circumstances, reached, size⟩
      exact ⟨circumstances, reached, size, nofun⟩
  | write author text =>
      rcases ends_bind.mp ends with ⟨_, _, writing, ends⟩
      rcases ends_pure.mp ends with ⟨rfl, rfl⟩
      rcases ends_discard.mp writing with ⟨reply, writing⟩
      rcases ends_append_channel loaded writing with ⟨now, recorded, size⟩
      refine ⟨⟨now, 0, .both none, 0⟩, ?_, size, nofun⟩
      rw [recorded, ← same]
      rfl
  | refresh =>
      rcases ends_bind.mp ends with ⟨_, _, refreshing, ends⟩
      rcases ends_pure.mp ends with ⟨rfl, rfl⟩
      rcases ends_discard.mp refreshing with ⟨published, refreshing⟩
      rcases ends_redraw loaded same rfl refreshing with ⟨instant, drawn, renderMs, whole, size⟩
      exact ⟨⟨0, instant, drawn, renderMs⟩, whole, size, nofun⟩

end Service

end FrameChat
