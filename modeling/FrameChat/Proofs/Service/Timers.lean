import FrameChat.Proofs.Service.Footprints
import FrameChat.Proofs.Service.History
import FrameChat.Proofs.Service.Vigil
import Mathlib.Logic.Function.Basic

/-!
# Timers and their vigils

What the timers of a service go by are the instant, their period, and of each channel when it was
drawn last and who watches it (`Vigils`).  No operation that is carried out as a whole changes
these but in two ways: it draws a channel, with the viewers it has then, or it begins the timer of
a channel that it has just loaded.

* `Served.moved`: this is all that a request does.
* `ends_fire`: a timer that fires does to its channel what a vigil does that looks.
* `ticking_next`: the timers of a service fire one after the other when their deadlines have come.
* `Ticking.watched`: every timer keeps a vigil, whatever becomes of the service.
* `timers_keep_vigil`: so it draws for viewers only, a full period after all other drawings, and
  looks at a channel that is watched within a period of its last drawing.
-/

namespace FrameChat

namespace Channel

/-- What the timer of a channel goes by. -/
def watch (channel : Channel) : Nat × Roster :=
  (channel.lastRefresh, channel.roster)

theorem watch_record (channel : Channel) (now : Seconds) (message : Message) :
    (channel.record now message).2.watch = channel.watch := by
  rw [record]
  split <;> rfl

theorem watch_store (channel : Channel) (viewport : Viewport) (rendering : Option Rendering) :
    (channel.store viewport rendering).watch = channel.watch := by
  cases rendering with
  | none => rfl
  | some rendering =>
      rcases offerTo_eq rendering.frame (channel.sessionsIn viewport) channel with
        ⟨mailboxes, same⟩
      rw [store]
      dsimp only
      rw [same]
      rfl

theorem watch_publish (channel : Channel) (version : Nat) (drawn : PerViewport (Option Rendering))
    (renderMs : Nat) : (channel.publish version drawn renderMs).2.watch = channel.watch := by
  rw [publish]
  split
  · rfl
  · split
    · rfl
    · calc
        _ = ((channel.store .narrow drawn.narrow).store .wide drawn.wide).watch := rfl
        _ = (channel.store .narrow drawn.narrow).watch := watch_store _ _ _
        _ = channel.watch := watch_store _ _ _

theorem watch_closeIfIdle (channel : Channel) : channel.closeIfIdle.2.watch = channel.watch := by
  rw [closeIfIdle]
  split <;> rfl

theorem watch_close (channel : Channel) : channel.close.watch = channel.watch := by
  rcases foldl_closeMailbox_eq (channel.roster.viewers.map Viewer.session) channel with
    ⟨mailboxes, same⟩
  rw [close, same]
  rfl

/-- Who is turned away leaves a channel as it was, and a closed one takes nobody. -/
theorem enter_cases (channel : Channel) (identity : String) (viewport : Viewport)
    (address : Net.Address) :
    (channel.enter identity viewport address).2 = channel ∧
        (∀ session displaced,
          (channel.enter identity viewport address).1 ≠ .entered session displaced) ∨
      channel.closed = false ∧ ∃ session displaced,
        (channel.enter identity viewport address).1 = .entered session displaced := by
  rw [enter]
  split
  · refine .inl ⟨rfl, fun session displaced entered => ?_⟩
    cases entered
  · dsimp only
    split
    · refine .inl ⟨rfl, fun session displaced entered => ?_⟩
      cases entered
    · exact .inr ⟨by simpa using ‹¬ channel.closed = true›, _, _, rfl⟩

/-- Who is not there to leave leaves the channel as it was. -/
theorem remove_of_none {channel : Channel} {session : Nat}
    (absent : (channel.remove session).1 = none) : (channel.remove session).2 = channel := by
  rw [remove] at absent ⊢
  split at absent
  · rfl
  · cases absent

end Channel

namespace Service

open Operation

/-- What the timers of a service go by. -/
structure Vigils where
  instant : Nat
  period : Nat
  timers : List Timer
  watches : Nat → Nat × Roster

def vigils (service : Service) : Vigils where
  instant := service.instant
  period := service.channelSettings.refreshPeriod
  timers := service.timers
  watches index := (service.channel index).watch

namespace Vigils

/-- The vigil of a timer. -/
def vigil (vigils : Vigils) (index deadline : Nat) : Vigil :=
  ⟨deadline, (vigils.watches index).1, vigils.instant, (vigils.watches index).2.count⟩

/-- A channel is drawn, with some viewers. -/
def redraw (vigils : Vigils) (index : Nat) (roster : Roster) : Vigils :=
  { vigils with watches := Function.update vigils.watches index (vigils.instant, roster) }

/-- A timer is set to look at a channel. -/
def set (vigils : Vigils) (index deadline : Nat) : Vigils :=
  { vigils with timers := vigils.timers ++ [.refresh index deadline] }

end Vigils

/-! ## Steps on a channel -/

theorem vigils_withChannel_of_loaded {α : Type} {index : Nat} (act : Channel → α × Channel)
    {service : Service} (loaded : index < service.channels.size) :
    (withChannel index act service).2.vigils =
      { service.vigils with
        watches := Function.update service.vigils.watches index
          (act (service.channel index)).2.watch } := by
  have watches (other : Nat) : ((withChannel index act service).2.channel other).watch =
      Function.update service.vigils.watches index (act (service.channel index)).2.watch other := by
    by_cases here : other = index
    · subst here
      rw [Function.update_self, channel_withChannel act loaded]
    · rw [Function.update_of_ne here, channel_withChannel_of_ne act service here]
      rfl
  exact congrArg (Vigils.mk _ _ _) (funext watches)

theorem withChannel_of_not_loaded {α : Type} {index : Nat} (act : Channel → α × Channel)
    {service : Service} (missing : ¬ index < service.channels.size) :
    (withChannel index act service).2 = service := by
  simp [withChannel, Array.setIfInBounds, missing]

theorem vigils_withChannel {α : Type} {index : Nat} {act : Channel → α × Channel}
    {service : Service}
    (same : (act (service.channel index)).2.watch = (service.channel index).watch) :
    (withChannel index act service).2.vigils = service.vigils := by
  by_cases loaded : index < service.channels.size
  · rw [vigils_withChannel_of_loaded act loaded, same]
    exact congrArg (Vigils.mk _ _ _) (Function.update_eq_self index _)
  · rw [withChannel_of_not_loaded act loaded]

theorem keeps_vigils_onChannel {α : Type} {index : Nat} {act : Channel → α × Channel}
    (same : ∀ channel, (act channel).2.watch = channel.watch) :
    Keeps vigils (onChannel index act) :=
  Keeps.act fun _ => vigils_withChannel (same _)

/-- An instance that is not closed was loaded. -/
theorem lt_size_of_open {service : Service} {index : Nat}
    (isOpen : (service.channel index).closed = false) : index < service.channels.size := by
  have found := List.getElem?_eq_some_iff.mp (getElem?_of_open isOpen)
  simpa [chronicle] using found.1

theorem faceless_vigils : Faceless vigils := fun _ _ => rfl

/-- What timers go by, and the number of instances. -/
def vigilsAndSize (service : Service) : Vigils × Nat :=
  (service.vigils, service.channels.size)

theorem keeps_append_vigils (index : Nat) (message : Message) :
    Keeps vigilsAndSize (append index message) := by
  refine Keeps.bind Keeps.now fun now => Keeps.bind (Keeps.act fun service => ?_) fun recorded => ?_
  · exact Prod.ext (vigils_withChannel (Channel.watch_record _ now message))
      (size_withChannel _ _ service)
  · exact keeps_persist vigilsAndSize (fun _ _ => rfl) index now recorded

/-- A channel that is drawn again is drawn at the present instant, also if drawing was abandoned. -/
theorem ends_refresh_vigils {index : Nat} {before after : Service} {result : Except Fault Bool}
    (ends : Ends (refresh index) before result after) :
    after.vigils =
      (withChannel index (·.snapshot before.instant) before).2.vigils := by
  refine (ends_act_bind.mp ends).keeps (Keeps.bind Keeps.now fun now => ?_)
  refine Keeps.bind (Keeps.ask _) fun started => ?_
  refine Keeps.bind (keeps_render faceless_vigils _ _) fun narrow => ?_
  refine Keeps.bind (keeps_render faceless_vigils _ _) fun wide => ?_
  refine Keeps.bind (Keeps.ask _) fun ended => ?_
  exact keeps_vigils_onChannel fun channel => Channel.watch_publish channel _ _ _

/-- What a request may do to timers and what they go by: draw channels, and begin a timer. -/
structure Vigils.Moved (before after : Vigils) : Prop where
  instant : after.instant = before.instant
  period : after.period = before.period
  /-- a timer is begun for a channel that nobody watches -/
  timers : ∀ index deadline, .refresh index deadline ∈ after.timers →
    .refresh index deadline ∈ before.timers ∨
      deadline = before.instant + before.period ∧ (after.watches index).1 = before.instant ∧
        (after.watches index).2.count = 0
  /-- viewers come and go with a drawing only -/
  watches : ∀ index, after.watches index = before.watches index ∨
    (after.watches index).1 = before.instant

namespace Vigils.Moved

variable {before after : Vigils}

theorem refl (vigils : Vigils) : Moved vigils vigils where
  instant := rfl
  period := rfl
  timers _ _ member := .inl member
  watches _ := .inl rfl

theorem redraw (vigils : Vigils) (index : Nat) (roster : Roster) :
    Moved vigils (vigils.redraw index roster) where
  instant := rfl
  period := rfl
  timers _ _ member := .inl member
  watches other := by
    by_cases here : other = index
    · subst here
      exact .inr (by simp [Vigils.redraw])
    · exact .inl (Function.update_of_ne here _ _)

end Vigils.Moved

theorem moved_of_keeps {α : Type} {operation : Op α} {before after : Service}
    {result : Except Fault α} (keeps : Keeps vigils operation)
    (ends : Ends operation before result after) : Vigils.Moved before.vigils after.vigils :=
  ends.keeps keeps ▸ .refl _

/-! ## Drawing again -/

theorem ends_refresh_of_loaded {index : Nat} {before after : Service}
    {result : Except Fault Bool} (loaded : index < before.channels.size)
    (ends : Ends (refresh index) before result after) :
    after.vigils = before.vigils.redraw index (before.channel index).roster :=
  (ends_refresh_vigils ends).trans (vigils_withChannel_of_loaded _ loaded)

theorem moved_refresh {index : Nat} {before after : Service} {result : Except Fault Bool}
    (ends : Ends (refresh index) before result after) :
    Vigils.Moved before.vigils after.vigils := by
  by_cases loaded : index < before.channels.size
  · rw [ends_refresh_of_loaded loaded ends]
    exact .redraw _ _ _
  · rw [ends_refresh_vigils ends, withChannel_of_not_loaded _ loaded]
    exact .refl _

/-- A channel whose viewers changed is announced to have them, and drawn again. -/
theorem moved_of_visit {index : Nat} {before visited announced after : Service}
    {roster : Nat × Roster} {result : Except Fault Bool}
    (loaded : index < visited.channels.size)
    (changed : visited.vigils =
      { before.vigils with watches := Function.update before.vigils.watches index roster })
    (same : announced.vigilsAndSize = visited.vigilsAndSize)
    (ends : Ends (refresh index) announced result after) :
    Vigils.Moved before.vigils after.vigils := by
  have sameSize : announced.channels.size = visited.channels.size := congrArg Prod.snd same
  have sameVigils : announced.vigils = visited.vigils := congrArg Prod.fst same
  have redrawn := ends_refresh_of_loaded (sameSize ▸ loaded) ends
  rw [sameVigils, changed, Vigils.redraw] at redrawn
  dsimp only at redrawn
  rw [Function.update_idem] at redrawn
  rw [redrawn]
  exact Vigils.Moved.redraw before.vigils index _

/-! ## Requests -/

theorem moved_join {index : Nat} {identity : String} {viewport : Viewport} {address : Net.Address}
    {before after : Service} {joined : Joined}
    (ends : Ends (join index identity viewport address) before (.ok joined) after) :
    Vigils.Moved before.vigils after.vigils := by
  replace ends := ends_act_bind.mp ends
  have answered : (withChannel index (·.enter identity viewport address) before).1 =
      ((before.channel index).enter identity viewport address).1 := rfl
  rw [answered] at ends
  rcases Channel.enter_cases (before.channel index) identity viewport address with
    ⟨same, away⟩ | ⟨isOpen, session, displaced, entered⟩
  · have unchanged : (withChannel index (·.enter identity viewport address) before).2.vigils =
        before.vigils := vigils_withChannel (congrArg Channel.watch same)
    rw [← unchanged]
    cases entry : ((before.channel index).enter identity viewport address).1 with
    | closed =>
        rw [entry] at ends
        exact moved_of_keeps (Keeps.pure _) ends
    | rejected =>
        rw [entry] at ends
        exact moved_of_keeps (Keeps.bind (keeps_renderNotice faceless_vigils _ _) fun _ =>
          Keeps.pure _) ends
    | entered session displaced => exact absurd entry (away session displaced)
  · have loaded := lt_size_of_open isOpen
    have changed := vigils_withChannel_of_loaded (·.enter identity viewport address) loaded
    have stillLoaded : index <
        (withChannel index (·.enter identity viewport address) before).2.channels.size := by
      rwa [size_withChannel]
    rw [entered] at ends
    cases displaced with
    | true =>
        rcases ends_bind.mp ends with ⟨_, middle, refreshed, ends⟩
        rcases ends_discard.mp refreshed with ⟨published, refreshed⟩
        rcases ends_pure.mp ends with ⟨-, rfl⟩
        exact moved_of_visit stillLoaded changed rfl refreshed
    | false =>
        rcases ends_bind.mp ends with ⟨_, announced, announcing, ends⟩
        rcases ends_discard.mp announcing with ⟨reply, announcing⟩
        rcases ends_bind.mp ends with ⟨_, middle, refreshed, ends⟩
        rcases ends_discard.mp refreshed with ⟨published, refreshed⟩
        rcases ends_pure.mp ends with ⟨-, rfl⟩
        exact moved_of_visit stillLoaded changed
          (announcing.keeps (keeps_append_vigils index _)) refreshed

theorem moved_leave {index session : Nat} {before after : Service}
    (ends : Ends (leave index session) before (.ok ()) after) :
    Vigils.Moved before.vigils after.vigils := by
  replace ends := ends_act_bind.mp ends
  have answered : (withChannel index (·.remove session) before).1 =
      ((before.channel index).remove session).1 := rfl
  rw [answered] at ends
  cases removed : ((before.channel index).remove session).1 with
  | none =>
      rw [removed] at ends
      have unchanged : (withChannel index (·.remove session) before).2.vigils = before.vigils :=
        vigils_withChannel (congrArg Channel.watch (Channel.remove_of_none removed))
      rw [← unchanged]
      exact moved_of_keeps (Keeps.pure _) ends
  | some viewer =>
      rw [removed] at ends
      have loaded : index < before.channels.size := by
        by_contra missing
        have shut : before.channel index = Channel.shut := by simp [Service.channel, missing]
        rw [shut] at removed
        cases removed
      have changed := vigils_withChannel_of_loaded (·.remove session) loaded
      have stillLoaded : index <
          (withChannel index (·.remove session) before).2.channels.size := by
        rwa [size_withChannel]
      have closing : Keeps vigilsAndSize
          (onChannel index fun channel => ((), channel.closeMailbox session)) :=
        Keeps.act fun service => Prod.ext (vigils_withChannel rfl) (size_withChannel _ _ service)
      rcases ends.after closing with ⟨_, closed, closedSame, ends⟩
      rcases ends_bind.mp ends with ⟨_, announced, announcing, refreshing⟩
      rcases ends_discard.mp announcing with ⟨reply, announcing⟩
      rcases ends_discard.mp refreshing with ⟨published, refreshing⟩
      have same := (announcing.keeps (keeps_append_vigils index _)).trans closedSame
      exact moved_of_visit stillLoaded changed same refreshing

theorem moved_append {index : Nat} {message : Message} {before after : Service}
    {reply : Except AppendFault Message}
    (ends : Ends (append index message) before (.ok reply) after) :
    Vigils.Moved before.vigils after.vigils :=
  moved_of_keeps ((keeps_append_vigils index message).part Prod.fst) ends

/-- A message is posted, and its channel is drawn again. -/
theorem moved_post {index : Nat} {message : Message} {before after : Service}
    {reply : Except Refused Accepted} (ends : Ends (post index message) before (.ok reply) after) :
    Vigils.Moved before.vigils after.vigils := by
  have appended := (keeps_append_vigils index message).part Prod.fst
  rcases ends.after appended with ⟨answer, middle, same, ends⟩
  have sameVigils : middle.vigils = before.vigils := same
  rw [← sameVigils]
  have drawn {value : Except Refused Accepted}
      (ends : Ends (do discard (refresh index); return value) middle (.ok reply) after) :
      Vigils.Moved middle.vigils after.vigils := by
    rcases ends_bind.mp ends with ⟨_, last, refreshed, ends⟩
    rcases ends_discard.mp refreshed with ⟨published, refreshed⟩
    rcases ends_pure.mp ends with ⟨-, rfl⟩
    exact moved_refresh refreshed
  cases answer with
  | ok numbered => exact drawn ends
  | error fault =>
      cases fault with
      | closed =>
          exact moved_of_keeps (Keeps.pure _) ends
      | archive fault => exact drawn ends

theorem keeps_vigils_checkToken (submission : Submission) :
    Keeps vigils (checkToken submission) := by
  refine Keeps.bind (Keeps.ask _) fun intake => ?_
  split
  · exact Keeps.bind Keeps.now fun now => Keeps.act fun service => rfl
  · exact Keeps.pure _

theorem moved_submit {submission : Submission} {before after : Service}
    {reply : Except Refused Accepted} (ends : Ends (submit submission) before (.ok reply) after) :
    Vigils.Moved before.vigils after.vigils := by
  have passing : Keeps vigils (passAddress submission.address) := Keeps.act fun _ => rfl
  rcases ends.after passing with ⟨passes, passed, passedSame, ends⟩
  rw [← passedSame]
  cases passes with
  | false =>
      exact moved_of_keeps (Keeps.pure _) ends
  | true =>
      rcases ends.after (keeps_vigils_checkToken _) with ⟨verdict, checked, checkedSame, ends⟩
      rw [← checkedSame]
      cases verdict with
      | error refusal =>
          exact moved_of_keeps (Keeps.pure _) ends
      | ok granted =>
          replace ends := ends_ask_bind.mp ends
          cases found : checked.find? (checked.intake.channelName submission.channel) with
          | none =>
              simp only [id, found] at ends
              exact moved_of_keeps (Keeps.pure _) ends
          | some index =>
              simp only [id, found] at ends
              split at ends
              · exact moved_of_keeps (Keeps.pure _) ends
              · exact moved_post ends

/-- Sweeping closes channels, and draws none. -/
theorem vigils_foldl_sweep (entries kept : List (String × Nat)) (service : Service) :
    ({ service with
      channels := (entries.foldl sweep (kept, service.channels)).2 } : Service).vigils =
        service.vigils := by
  induction entries generalizing kept service with
  | nil => rfl
  | cons entry entries ih =>
      rw [List.foldl_cons]
      cases idle : (service.channels.getD entry.2 Channel.shut).roster.isEmpty with
      | false =>
          rw [sweep_of_watched idle]
          exact ih (kept ++ [entry]) service
      | true =>
          rw [sweep_of_idle idle]
          exact (ih kept (withChannel entry.2 Channel.closeIfIdle service).2).trans
            (vigils_withChannel (Channel.watch_closeIfIdle _))

theorem ends_purge_vigils {count : Nat} {before after : Service}
    (ends : Ends purge before (.ok count) after) : after.vigils = before.vigils := by
  rcases ends_act.mp ends with ⟨-, state⟩
  rw [state]
  exact vigils_foldl_sweep before.directory.entries [] before

theorem vigils_push (service : Service) (channel : Channel) :
    ({ service with channels := service.channels.push channel } : Service).vigils =
      { service.vigils with
        watches := Function.update service.vigils.watches service.channels.size
          channel.watch } := by
  refine congrArg (Vigils.mk _ _ _) (funext fun other => ?_)
  by_cases here : other = service.channels.size
  · subst here
    simp [Service.channel, Function.update_self]
  · rw [Function.update_of_ne here]
    have same : (service.channels.push channel).getD other Channel.shut =
        service.channels.getD other Channel.shut := by
      simp [Array.getD_eq_getD_getElem?, Array.getElem?_push, here]
    exact congrArg Channel.watch same

theorem ends_refresh_of_push {channel : Channel} {service after : Service}
    {result : Except Fault Bool}
    (ends : Ends (refresh service.channels.size)
      { service with channels := service.channels.push channel } result after) :
    after.vigils = service.vigils.redraw service.channels.size channel.roster := by
  have here : ({ service with channels := service.channels.push channel } : Service).channel
      service.channels.size = channel := by simp [Service.channel]
  rw [ends_refresh_of_loaded (by simp) ends, here, vigils_push, Vigils.redraw]
  exact congrArg (Vigils.mk _ _ _) (Function.update_idem ..)

theorem keeps_randomBytes_vigils (count : Nat) : Keeps vigilsAndSize (randomBytes count) :=
  Keeps.act fun _ => rfl

/-- An instance that is added was just drawn, and nobody watches it. -/
theorem ends_addInstance_vigils {name : String} {history : List Message} {active : Seconds}
    {before after : Service} {reply : Except Archive.Fault Nat}
    (ends : Ends (addInstance name history active) before (.ok reply) after) :
    reply = .ok before.channels.size ∧
      after.vigils = before.vigils.redraw before.channels.size Roster.empty := by
  have faceless : Faceless vigilsAndSize := fun _ _ => rfl
  rcases ends.after (keeps_renderNotice faceless _ _) with ⟨narrow, first, firstSame, ends⟩
  rcases ends.after (keeps_renderNotice faceless _ _) with ⟨wide, second, secondSame, ends⟩
  rcases ends.after (keeps_randomBytes_vigils _) with ⟨random, third, thirdSame, ends⟩
  replace ends := ends_act_bind.mp ends
  rcases ends_bind.mp ends with ⟨_, drawn, refreshed, ends⟩
  rcases ends_discard.mp refreshed with ⟨published, refreshed⟩
  rcases ends_pure.mp ends with ⟨same, rfl⟩
  have unchanged := thirdSame.trans (secondSame.trans firstSame)
  have sameSize : third.channels.size = before.channels.size := congrArg Prod.snd unchanged
  have sameVigils : third.vigils = before.vigils := congrArg Prod.fst unchanged
  rw [← sameSize, ← sameVigils]
  exact ⟨same, ends_refresh_of_push refreshed⟩

/-- Loading fails, or adds an instance. -/
theorem ends_load_vigils {name : String} {before after : Service} {reply : Except Archive.Fault Nat}
    (ends : Ends (load name) before (.ok reply) after) :
    (∃ fault, reply = .error fault) ∧ after.vigils = before.vigils ∨
      reply = .ok before.channels.size ∧
        after.vigils = before.vigils.redraw before.channels.size Roster.empty := by
  replace ends := ends_act_bind.mp ends
  have same : (withArchive (·.load name) before).2.vigilsAndSize = before.vigilsAndSize := rfl
  generalize (withArchive (·.load name) before).2 = middle at ends same
  cases asked : (withArchive (·.load name) before).1 with
  | error fault =>
      rw [asked] at ends
      rcases ends_pure.mp ends with ⟨rfl, rfl⟩
      exact .inl ⟨⟨fault, rfl⟩, congrArg Prod.fst same⟩
  | ok history =>
      rw [asked] at ends
      replace ends := ends_act_bind.mp ends
      have unchanged : (withArchive (·.lastActive name) middle).2.vigilsAndSize =
          before.vigilsAndSize := same
      generalize (withArchive (·.lastActive name) middle).2 = last at ends unchanged
      cases active : (withArchive (·.lastActive name) middle).1 with
      | error fault =>
          rw [active] at ends
          rcases ends_pure.mp ends with ⟨rfl, rfl⟩
          exact .inl ⟨⟨fault, rfl⟩, congrArg Prod.fst unchanged⟩
      | ok stored =>
          rw [active] at ends
          obtain ⟨time, ends⟩ : ∃ time,
              Ends (addInstance name history time) last (.ok reply) after := by
            cases stored with
            | some time => exact ⟨time, ends⟩
            | none => exact ends_now_bind.mp ends
          have sameVigils : last.vigils = before.vigils := congrArg Prod.fst unchanged
          have sameSize : last.channels.size = before.channels.size := congrArg Prod.snd unchanged
          rw [← sameVigils, ← sameSize]
          exact .inr (ends_addInstance_vigils ends)

/-- A timer may be set for an instance that was just loaded. -/
theorem Vigils.Moved.begin (vigils : Vigils) (index : Nat) :
    Vigils.Moved vigils
      ((vigils.redraw index Roster.empty).set index (vigils.instant + vigils.period)) where
  instant := rfl
  period := rfl
  timers other deadline member := by
    rcases List.mem_append.mp member with old | new
    · exact .inl old
    · cases List.mem_singleton.mp new
      exact .inr ⟨rfl, by simp [Vigils.set, Vigils.redraw], by
        simp [Vigils.set, Vigils.redraw, Roster.empty, Roster.count]⟩
  watches := (Moved.redraw vigils index Roster.empty).watches

theorem moved_openChannel {name : String} {before after : Service} {reply : Except OpenFault Nat}
    (ends : Ends (openChannel name) before (.ok reply) after) :
    Vigils.Moved before.vigils after.vigils := by
  rw [openChannel] at ends
  split at ends
  · exact moved_of_keeps (Keeps.pure _) ends
  · replace ends := ends_ask_bind.mp ends
    cases found : before.find? name with
    | some index =>
        rw [found] at ends
        exact moved_of_keeps (Keeps.pure _) ends
    | none =>
        rw [found] at ends
        rcases ends_bind.mp ends with ⟨answer, middle, loading, ends⟩
        rcases ends_load_vigils loading with ⟨⟨fault, rfl⟩, same⟩ | ⟨rfl, added⟩
        · rw [← same]
          exact moved_of_keeps (Keeps.pure _) ends
        · have inserting : Keeps vigils (insertLoaded name before.channels.size) :=
            Keeps.act fun _ => rfl
          rcases ends.after inserting with ⟨existing, inserted, insertedSame, ends⟩
          cases existing with
          | some live =>
              have closing : Keeps vigils (onChannel before.channels.size fun channel =>
                  ((), channel.close)) := keeps_vigils_onChannel Channel.watch_close
              rcases ends.after closing with ⟨_, closed, closedSame, ends⟩
              rcases ends_pure.mp ends with ⟨-, rfl⟩
              rw [closedSame, insertedSame, added]
              exact .redraw _ _ _
          | none =>
              replace ends := ends_act_bind.mp ends
              rcases ends_pure.mp ends with ⟨-, rfl⟩
              show Vigils.Moved before.vigils (inserted.vigils.set before.channels.size
                (inserted.vigils.instant + inserted.vigils.period))
              rw [insertedSame, added]
              exact .begin before.vigils before.channels.size

/-- A request that is carried out as a whole draws channels, and may begin a timer. -/
theorem Served.moved {oldest : Nat} {before after : Service} {reported : Account}
    (served : Served oldest before reported after) : Vigils.Moved before.vigils after.vigils := by
  cases served with
  | openChannel ends => exact moved_openChannel ends
  | join _ ends => exact moved_join ends
  | leave _ ends => exact moved_leave ends
  | append _ ends => exact moved_append ends
  | submit ends => exact moved_submit ends
  | refresh _ ends => exact moved_refresh ends
  | purge ends => exact ends_purge_vigils ends ▸ .refl _

/-! ## Timers -/

theorem isEmpty_eq (roster : Roster) : (!roster.isEmpty) = Decidable.decide (0 < roster.count) := by
  rw [Roster.isEmpty, Roster.count]
  cases roster.sessions <;> simp

/-- What a look of its timer does to a channel, and when the timer looks again. -/
def Vigils.look (vigils : Vigils) (index deadline : Nat) : Vigils :=
  let looked := (vigils.vigil index deadline).looked vigils.period
  { vigils with
    watches := Function.update vigils.watches index
      (looked.lastRefresh, (vigils.watches index).2) }.set index looked.deadline

/-- A timer that fires looks at its channel; that of a closed channel ends. -/
theorem ends_fire {index deadline : Nat} {before after : Service}
    (ends : Ends (fire (.refresh index deadline)) before (.ok ()) after) :
    (before.channel index).closed = true ∧ after = before ∨
      (before.channel index).closed = false ∧
        after.vigils = before.vigils.look index deadline := by
  replace ends := ends_ask_bind.mp ends
  dsimp only [id] at ends
  split at ends
  case isTrue closed =>
    rcases ends_pure.mp ends with ⟨-, rfl⟩
    exact .inl ⟨closed, rfl⟩
  case isFalse notClosed =>
    have isOpen : (before.channel index).closed = false := by simpa using notClosed
    refine .inr ⟨isOpen, ?_⟩
    have decided : decide before.channelSettings.refreshPeriod before.instant
        (before.channel index).lastRefresh (!(before.channel index).roster.isEmpty) =
          (before.vigils.vigil index deadline).decision before.vigils.period := by
      rw [isEmpty_eq]
      rfl
    rw [decided] at ends
    rw [Vigils.look, Vigil.looked]
    generalize (before.vigils.vigil index deadline).decision before.vigils.period = decision
      at ends
    rcases decision with ⟨refreshes, next⟩
    cases refreshes with
    | true =>
        rcases ends_bind.mp ends with ⟨_, middle, refreshing, ends⟩
        rcases ends_discard.mp refreshing with ⟨result, attempted⟩
        have drawn := ends_refresh_of_loaded (lt_size_of_open isOpen) (ends_attempt.mp attempted)
        rcases ends_act.mp ends with ⟨-, rfl⟩
        exact congrArg (Vigils.set · index next) drawn
    | false =>
        rcases ends_act.mp ends with ⟨-, rfl⟩
        exact congrArg (Vigils.set · index next)
          (congrArg (Vigils.mk _ _ _) (Function.update_eq_self index _).symm)

/-! ## Timers that keep vigil -/

/-- Every timer keeps a vigil that was begun while nobody watched. -/
def Vigils.Watched (vigils : Vigils) : Prop :=
  ∀ index deadline, .refresh index deadline ∈ vigils.timers →
    ∃ drawings, Vigil.Reachable vigils.period drawings (vigils.vigil index deadline)

/--
What may become of a service that is run: requests are answered as a whole, time passes, and timers
fire that are due.
-/
inductive Ticking : Service → Prop where
  | start (studio : Studio) (settings : Channel.Settings) (limits : Intake.Limits)
      (clock : Seconds) (entropy : Entropy) (archive : Archive) :
      Ticking (Service.start studio settings limits clock entropy archive)
  | request {oldest : Nat} {before after : Service} {reported : Account} :
      Ticking before → Served oldest before reported after → Ticking after
  | wait {service : Service} (milliseconds : Nat) :
      Ticking service → Ticking { service with instant := service.instant + milliseconds }
  | fire {before after : Service} {earlier later : List Timer} {timer : Timer} :
      Ticking before → before.timers = earlier ++ timer :: later →
        timer.deadline ≤ before.instant →
          Ends (fire timer) { before with timers := earlier ++ later } (.ok ()) after →
            Ticking after
  /-- timers may be dropped, and all may change that timers do not go by -/
  | meanwhile {before after : Service} :
      Ticking before → after.vigils = { before.vigils with timers := after.timers } →
        (∀ timer ∈ after.timers, timer ∈ before.timers) → Ticking after

theorem takeEarliest_ne_none (timer : Timer) (rest : List Timer) :
    takeEarliest (timer :: rest) ≠ none := by
  rw [takeEarliest]
  split
  · exact Option.some_ne_none _
  · split <;> exact Option.some_ne_none _

/-- The earliest timer is taken out of the list, and all others are left. -/
theorem exists_split_of_takeEarliest {timers others : List Timer} {timer : Timer}
    (taken : takeEarliest timers = some (timer, others)) :
    ∃ earlier later, timers = earlier ++ timer :: later ∧ others = earlier ++ later := by
  induction timers generalizing timer others with
  | nil => cases taken
  | cons first rest ih =>
      rw [takeEarliest] at taken
      cases earliest : takeEarliest rest with
      | none =>
          rw [earliest] at taken
          cases rest with
          | nil =>
              cases taken
              exact ⟨[], [], rfl, rfl⟩
          | cons second rest => exact absurd earliest (takeEarliest_ne_none second rest)
      | some found =>
          rw [earliest] at taken
          dsimp only at taken
          split at taken
          · cases taken
            rcases ih earliest with ⟨earlier, later, split, left⟩
            exact ⟨first :: earlier, later, congrArg (first :: ·) split, congrArg (first :: ·) left⟩
          · cases taken
            exact ⟨[], rest, rfl, rfl⟩

/-- The timer that is next fires at its deadline, up to which time passes, or at once after it. -/
theorem ticking_next {before chosen after : Service} {target : Nat} {timer : Timer}
    (ticking : Ticking before) (choosing : Ends (nextDue target) before (.ok (some timer)) chosen)
    (firing : Ends (fire timer) chosen (.ok ()) after) : Ticking after := by
  rcases ends_act.mp choosing with ⟨found, rfl⟩
  cases taken : takeEarliest before.timers with
  | none =>
      rw [taken] at found
      cases found
  | some earliest =>
      rcases earliest with ⟨first, others⟩
      simp only [taken] at found firing
      split at found
      case isTrue inTime =>
        cases found
        rcases exists_split_of_takeEarliest taken with ⟨earlier, later, split, rfl⟩
        have passed : before.instant + (timer.deadline - before.instant) =
            max before.instant timer.deadline := by omega
        rw [if_pos inTime, ← passed] at firing
        have waited := ticking.wait (timer.deadline - before.instant)
        exact waited.fire split (by simp only; omega) firing
      case isFalse => cases found

namespace Vigils

variable {vigils before after : Vigils}

theorem Moved.watched (moved : Moved before after) (watched : before.Watched) : after.Watched := by
  intro index deadline member
  rw [moved.period]
  rcases moved.timers index deadline member with old | ⟨begun, drawn, nobody⟩
  · rcases watched index deadline old with ⟨drawings, reachable⟩
    rcases moved.watches index with same | drawn
    · refine ⟨drawings, ?_⟩
      rwa [vigil, same, moved.instant]
    · have visited := reachable.step (.visit (after.watches index).2.count)
      rw [vigil, drawn, moved.instant]
      exact ⟨_, visited⟩
  · refine ⟨[⟨before.instant, 0, false⟩], ?_⟩
    rw [vigil, begun, drawn, nobody, moved.instant]
    exact .start (Nat.le_refl _) rfl

theorem Watched.mono {timers : List Timer} (watched : vigils.Watched)
    (fewer : ∀ timer ∈ timers, (∃ index deadline, timer = .refresh index deadline) →
      timer ∈ vigils.timers) : Watched { vigils with timers } :=
  fun index deadline member =>
    watched index deadline (fewer _ member ⟨index, deadline, rfl⟩)

theorem vigil_look (vigils : Vigils) (index deadline next : Nat) :
    (vigils.look index deadline).vigil index next =
      { (vigils.vigil index deadline).looked vigils.period with deadline := next } := by
  simp [vigil, look, set, Vigil.looked, Function.update_self]

theorem vigil_look_of_ne (vigils : Vigils) {index other : Nat} (differ : other ≠ index)
    (deadline next : Nat) :
    (vigils.look index deadline).vigil other next = vigils.vigil other next := by
  simp [vigil, look, set, Function.update_of_ne differ]

/-- When a timer looks that is due, it and all others keep their vigils. -/
theorem Watched.look {timers : List Timer} {index deadline : Nat} (watched : vigils.Watched)
    (fewer : ∀ timer ∈ timers, timer ∈ vigils.timers)
    (listed : .refresh index deadline ∈ vigils.timers) (due : deadline ≤ vigils.instant) :
    ({ vigils with timers }.look index deadline).Watched := by
  intro other next member
  rcases List.mem_append.mp member with old | new
  · rcases watched other next (fewer _ old) with ⟨drawings, reachable⟩
    by_cases here : other = index
    · subst here
      rw [vigil_look]
      rcases (vigils.vigil other deadline).lastRefresh_looked vigils.period with same | drawn
      · refine ⟨drawings, ?_⟩
        have vigilSame : { (vigils.vigil other deadline).looked vigils.period with
            deadline := next } = vigils.vigil other next := by
          rw [vigil, Vigil.mk.injEq]
          exact ⟨rfl, same, rfl, rfl⟩
        exact vigilSame ▸ reachable
      · have redrawn := reachable.step .refresh
        have vigilDrawn : { (vigils.vigil other deadline).looked vigils.period with
            deadline := next } =
              { vigils.vigil other next with lastRefresh := (vigils.vigil other next).now } := by
          rw [Vigil.mk.injEq]
          exact ⟨rfl, drawn, rfl, rfl⟩
        exact ⟨_, vigilDrawn ▸ redrawn⟩
    · rw [vigil_look_of_ne _ here]
      exact ⟨drawings, reachable⟩
  · cases List.mem_singleton.mp new
    rcases watched index deadline listed with ⟨drawings, reachable⟩
    rw [vigil_look]
    exact ⟨_, reachable.step (.look due)⟩

end Vigils

theorem Ticking.watched {service : Service} (ticking : Ticking service) :
    service.vigils.Watched := by
  induction ticking with
  | start studio settings limits clock entropy archive =>
      have none : (Service.start studio settings limits clock entropy archive).timers = [] := by
        rw [Service.start]
      intro index deadline member
      rw [vigils, none] at member
      exact absurd member List.not_mem_nil
  | request _ served ih => exact served.moved.watched ih
  | wait milliseconds _ ih =>
      intro index deadline member
      rcases ih index deadline member with ⟨drawings, reachable⟩
      exact ⟨drawings, .step reachable (.wait milliseconds)⟩
  | @fire before after earlier later timer _ split due ends ih =>
      have fewer : ∀ other ∈ earlier ++ later, other ∈ before.timers := by
        intro other member
        rw [split]
        simp only [List.mem_append, List.mem_cons] at member ⊢
        exact member.imp_right .inr
      have listed : timer ∈ before.timers := by simp [split]
      cases timer with
      | refresh index deadline =>
          rcases ends_fire ends with ⟨-, rfl⟩ | ⟨-, looked⟩
          · exact ih.mono fun other member _ => fewer other member
          · rw [looked]
            exact ih.look fewer listed due
      | purge period deadline =>
          rcases ends_bind.mp ends with ⟨_, swept, sweeping, ends⟩
          rcases ends_discard.mp sweeping with ⟨count, sweeping⟩
          rcases ends_act.mp ends with ⟨-, rfl⟩
          have same : swept.vigils = { before.vigils with timers := earlier ++ later } :=
            ends_purge_vigils sweeping
          have timers : swept.timers = earlier ++ later := congrArg Vigils.timers same
          show Vigils.Watched { swept.vigils with
            timers := swept.timers ++ [.purge period (deadline + period)] }
          rw [same, timers]
          refine ih.mono fun other member isRefresh => ?_
          rcases List.mem_append.mp member with old | new
          · exact fewer other old
          · rcases isRefresh with ⟨index, next, isRefresh⟩
            cases isRefresh.symm.trans (List.mem_singleton.mp new)
  | meanwhile _ same fewer ih =>
      rw [same]
      exact ih.mono fun timer member _ => fewer timer member

/--
Whatever happens, a vigil is kept that was begun while nobody watched, and all timers of a service
keep such vigils: one that fires does to its channel what a vigil does that looks.
-/
theorem timers_keep_vigil :
    (∀ (period : Nat) (drawings : List Vigil.Drawing) (vigil : Vigil),
      Vigil.Reachable period drawings vigil → Vigil.Kept period drawings vigil) ∧
    (∀ service, Ticking service → ∀ index deadline, .refresh index deadline ∈ service.timers →
      (∃ drawings, Vigil.Reachable service.channelSettings.refreshPeriod drawings
        (service.vigils.vigil index deadline)) ∧
      (0 < (service.channel index).roster.count →
        deadline ≤ (service.channel index).lastRefresh +
          service.channelSettings.refreshPeriod)) ∧
    (∀ (index deadline : Nat) (before after : Service),
      Ends (fire (.refresh index deadline)) before (.ok ()) after →
        (before.channel index).closed = true ∧ after = before ∨
          (before.channel index).closed = false ∧
            after.vigils = before.vigils.look index deadline) := by
  refine ⟨fun _ _ _ => Vigil.Reachable.kept, fun service ticking index deadline listed => ?_,
    fun _ _ _ _ => ends_fire⟩
  rcases ticking.watched index deadline listed with ⟨drawings, reachable⟩
  exact ⟨⟨drawings, reachable⟩, reachable.kept.due⟩

/-- A lobby that was opened nine seconds ago. -/
def lobby : Service :=
  { (Service.run (openChannel "lobby") bare).2 with instant := 9000 }

/-- The lobby, one second after somebody came to watch. -/
def watchedLobby : Service :=
  { (Service.run (join 0 "ann" .narrow (.v4 192 0 2 1)) lobby).2 with instant := 10000 }

theorem ticking_watchedLobby : Ticking watchedLobby := by
  have begun : Ticking bare := .start _ _ _ _ _ _
  have opens : (Service.run (openChannel "lobby") bare).1 = .ok (.ok 0) := rfl
  have opened : Served 0 bare [] (Service.run (openChannel "lobby") bare).2 :=
    .openChannel (.of_run opens)
  have joins : (Service.run (join 0 "ann" .narrow (.v4 192 0 2 1)) lobby).1 = .ok (.joined 1) := rfl
  have joined : Served 0 lobby [] (Service.run (join 0 "ann" .narrow (.v4 192 0 2 1)) lobby).2 :=
    .join (Nat.zero_le 0) (.of_run joins)
  exact (((begun.request opened).wait 9000).request joined).wait 1000

/-- Somebody comes to watch shortly before a timer looks that has not drawn for a while. -/
theorem vigil_kept_after_idle_stretch :
    Vigil.Kept 10000 [⟨29000, 1, true⟩, ⟨19000, 1, false⟩, ⟨0, 0, false⟩]
        ⟨39000, 29000, 29000, 1⟩ ∧
      (∃ drawings, Vigil.Reachable 10000 drawings ⟨10000, 9000, 10000, 1⟩) ∧
      .refresh 0 10000 ∈ watchedLobby.timers ∧
      10000 ≤ (watchedLobby.channel 0).lastRefresh + 10000 ∧
      ∃ after, Ends (fire (.refresh 0 10000)) watchedLobby (.ok ()) after ∧
        after.vigils = watchedLobby.vigils.look 0 10000 := by
  obtain ⟨kept, keeping, firing⟩ := timers_keep_vigil
  -- an idle look, somebody comes, a look that was overtaken, and one that draws
  have begun : Vigil.Reachable 10000 [⟨0, 0, false⟩] ⟨10000, 0, 0, 0⟩ :=
    .start (Nat.le_refl 0) rfl
  have idle := (begun.step (.wait 10000)).step (.look (by decide))
  have visited := (idle.step (.wait 9000)).step (.visit 1)
  have overtaken := (visited.step (.wait 1000)).step (.look (by decide))
  have drawn := (overtaken.step (.wait 9000)).step (.look (by decide))
  have timers : watchedLobby.timers = [.refresh 0 10000] := rfl
  have listed : .refresh 0 10000 ∈ watchedLobby.timers := timers ▸ List.mem_singleton_self _
  have watched : 0 < (watchedLobby.channel 0).roster.count := by decide +kernel
  rcases keeping _ ticking_watchedLobby 0 10000 listed with ⟨reachable, due⟩
  have fires : (Service.run (fire (.refresh 0 10000)) watchedLobby).1 = .ok () := rfl
  have isOpen : (watchedLobby.channel 0).closed = false := rfl
  refine ⟨kept _ _ _ drawn, reachable, listed, due watched, _, .of_run fires, ?_⟩
  rcases firing _ _ _ _ (.of_run fires) with ⟨closed, -⟩ | ⟨-, looked⟩
  · exact absurd closed (by simp [isOpen])
  · exact looked

end Service

end FrameChat
