import FrameChat.Proofs.Directory.Standing
import FrameChat.Proofs.Service.Requests

/-!
# Requests as moves

The requests of a service are made of moves.  Whatever people do with a channel that
they were given, each single step of it is a touch of that channel or concerns
neither channels nor the directory (`obeys_join`, `obeys_leave`, `obeys_append`,
`obeys_refresh`); so is each step of loading, apart from the one that takes the new
channel in.  A channel that is opened, and a sweep, are the moves of their own that
one expects, one after the other (`ends_openChannel_moves`, `run_purge`).  What is
said of any moves is therefore said of any requests, with their steps interleaved in
any way.
-/

namespace FrameChat

namespace Service

open Operation

/-- What no move but an aside changes. -/
def rooms (service : Service) : Array Channel × Directory :=
  (service.channels, service.directory)

/-- One step of somebody who has a channel: it touches the channel, or is an aside. -/
inductive Works (index : Nat) (before : Service) : Service → Prop where
  | touch (touch : Channel.Touch) :
      Works index before (withChannel index (fun channel => ((), channel.touch touch)) before).2
  | aside {after : Service} : after.rooms = before.rooms → Works index before after

/-- One step of loading a channel: it takes the channel in, draws it, or is an aside. -/
inductive Loads (name : String) (before : Service) : Service → Prop where
  | takeIn (history : List Message) (active : Seconds) (counter : UInt64)
      (notices : PerViewport Frame) :
      Loads name before { before with
        channels := before.channels.push (Channel.ofHistory name before.channelSettings history
          active counter notices before.instant) }
  | draw (index : Nat) (touch : Channel.Touch) : touch.draws = true →
      Loads name before (withChannel index (fun channel => ((), channel.touch touch)) before).2
  | aside {after : Service} : after.rooms = before.rooms → Loads name before after

variable {index : Nat}

theorem faceless_rooms : Faceless rooms := fun _ _ => rfl

theorem obeys_of_keeps_rooms {α : Type} {relation : Service → Service → Prop}
    (aside : ∀ {before after : Service}, after.rooms = before.rooms → relation before after)
    {operation : Op α} (keeps : Keeps rooms operation) : Obeys relation operation :=
  Obeys.of_keeps keeps fun _ _ same => aside same

theorem obeys_discard {α : Type} {relation : Service → Service → Prop} {operation : Op α}
    (obeys : Obeys relation operation) : Obeys relation (discard operation) :=
  Obeys.bind obeys fun _ => Obeys.pure _

/-! ## Working on a channel -/

theorem obeys_append (message : Message) : Obeys (Works index) (append index message) := by
  refine Obeys.bind Obeys.now fun now => ?_
  refine Obeys.bind (Obeys.act fun service => .touch (.record now message)) fun recorded => ?_
  exact obeys_of_keeps_rooms .aside (keeps_persist rooms (fun _ _ => rfl) index now recorded)

/-- A refresh takes a snapshot and publishes, and does nothing else to channels. -/
theorem obeys_refresh_of {relation : Service → Service → Prop}
    (aside : ∀ {before after : Service}, after.rooms = before.rooms → relation before after)
    (draw : ∀ before (touch : Channel.Touch), touch.draws = true →
      relation before (withChannel index (fun channel => ((), channel.touch touch)) before).2) :
    Obeys relation (refresh index) := by
  refine Obeys.bind (Obeys.act fun service => ?_) fun snapshot => ?_
  · exact draw service (.snapshot service.instant) rfl
  · refine Obeys.bind Obeys.now fun now => ?_
    refine Obeys.bind (obeys_of_keeps_rooms aside (Keeps.ask _)) fun started => ?_
    refine Obeys.bind (obeys_of_keeps_rooms aside (keeps_render faceless_rooms _ _)) fun narrow => ?_
    refine Obeys.bind (obeys_of_keeps_rooms aside (keeps_render faceless_rooms _ _)) fun wide => ?_
    refine Obeys.bind (obeys_of_keeps_rooms aside (Keeps.ask _)) fun ended => ?_
    exact Obeys.act fun service =>
      draw service (.publish snapshot.version ⟨narrow, wide⟩ (max (ended - started) 1)) rfl

theorem obeys_refresh : Obeys (Works index) (refresh index) :=
  obeys_refresh_of .aside fun _ touch _ => .touch touch

theorem obeys_join (identity : String) (viewport : Viewport) (address : Net.Address) :
    Obeys (Works index) (join index identity viewport address) := by
  refine Obeys.bind (Obeys.act fun service => .touch (.enter identity viewport address))
    fun entry => ?_
  have redrawn (session : Nat) :
      Obeys (Works index) (do discard (refresh index); return Joined.joined session) :=
    Obeys.bind (obeys_discard obeys_refresh) fun _ => Obeys.pure _
  cases entry with
  | closed => exact Obeys.pure _
  | rejected =>
      exact Obeys.bind (obeys_of_keeps_rooms .aside (keeps_renderNotice faceless_rooms _ _))
        fun notice => Obeys.pure _
  | entered session displaced =>
      cases displaced with
      | true => exact redrawn session
      | false => exact Obeys.bind (obeys_discard (obeys_append _)) fun _ => redrawn session

theorem obeys_leave (session : Nat) : Obeys (Works index) (leave index session) := by
  refine Obeys.bind (Obeys.act fun service => .touch (.remove session)) fun removed => ?_
  cases removed with
  | none => exact Obeys.pure _
  | some viewer =>
      refine Obeys.bind (Obeys.act fun service => .touch (.closeMailbox session)) fun _ => ?_
      refine Obeys.bind (obeys_discard (obeys_append _)) fun _ => ?_
      exact obeys_discard obeys_refresh

/-! ## Loading -/

theorem keeps_rooms_randomBytes (count : Nat) : Keeps rooms (randomBytes count) :=
  Keeps.act fun _ => rfl

theorem obeys_addInstance (name : String) (history : List Message) (active : Seconds) :
    Obeys (Loads name) (addInstance name history active) := by
  refine Obeys.bind (obeys_of_keeps_rooms .aside (keeps_renderNotice faceless_rooms _ _))
    fun narrow => ?_
  refine Obeys.bind (obeys_of_keeps_rooms .aside (keeps_renderNotice faceless_rooms _ _))
    fun wide => ?_
  refine Obeys.bind (obeys_of_keeps_rooms .aside (keeps_rooms_randomBytes 8)) fun random => ?_
  refine Obeys.bind (Obeys.act fun service => .takeIn history active _ ⟨narrow, wide⟩) fun channel => ?_
  exact Obeys.bind (obeys_discard (obeys_refresh_of .aside fun _ => .draw channel))
    fun _ => Obeys.pure _

theorem obeys_load (name : String) : Obeys (Loads name) (load name) := by
  refine Obeys.bind (Obeys.act fun service => .aside rfl) fun history => ?_
  cases history with
  | error fault => exact Obeys.pure _
  | ok history =>
      refine Obeys.bind (Obeys.act fun service => .aside rfl) fun stored => ?_
      cases stored with
      | error fault => exact Obeys.pure _
      | ok stored =>
          cases stored with
          | some active => exact obeys_addInstance name history active
          | none => exact Obeys.bind Obeys.now fun now => obeys_addInstance name history now

end Service

namespace House

open Operation Service

variable {house : House} {after : Service}

/-! ## Steps as moves -/

theorem step_aside (same : after.rooms = house.service.rooms) :
    house.step (.aside fun _ => after) = { house with service := after } := by
  rcases Prod.mk.inj same with ⟨channels, directory⟩
  rw [step, ← channels, ← directory]

theorem step_draw (index : Nat) {touch : Channel.Touch} (draws : touch.draws = true) :
    house.step (.touch index touch) = house.onChannel index (·.touch touch) := by
  rw [step, draws]
  rfl

/-- A step of somebody who was given a channel is a move. -/
theorem exists_move_of_works {index : Nat} (works : Works index house.service after)
    (given : house.isGiven index = true) :
    ∃ move, house.step move = { house with service := after } := by
  cases works with
  | touch touch =>
      refine ⟨.touch index touch, ?_⟩
      rw [step, given, Bool.or_true]
      rfl
  | aside same => exact ⟨_, step_aside same⟩

/-- A step of somebody who loads a channel is a move. -/
theorem exists_move_of_loads {name : String} (loads : Loads name house.service after) {pick : Nat}
    (loading : house.loading[pick]? = some name) :
    ∃ move, (house.step move).service = after := by
  cases loads with
  | takeIn history active counter notices =>
      refine ⟨.load pick history active counter notices, ?_⟩
      simp only [step, loading]
      rfl
  | draw index touch draws => exact ⟨.touch index touch, congrArg House.service (step_draw index draws)⟩
  | aside same => exact ⟨_, congrArg House.service (step_aside same)⟩

/-- Some moves lead from one house to another. -/
def Reaches (house final : House) : Prop :=
  ∃ moves, house.run moves = final

theorem Reaches.refl (house : House) : house.Reaches house := ⟨[], rfl⟩

theorem reaches_step (house : House) (move : Move) : house.Reaches (house.step move) :=
  ⟨[move], rfl⟩

theorem Reaches.trans {first second third : House} (start : first.Reaches second)
    (next : second.Reaches third) : first.Reaches third := by
  rcases start with ⟨moves, rfl⟩
  rcases next with ⟨more, rfl⟩
  exact ⟨moves ++ more, List.foldl_append⟩

theorem reaches_aside (same : after.rooms = house.service.rooms) :
    house.Reaches { house with service := after } :=
  step_aside same ▸ house.reaches_step _

theorem reaches_draw (house : House) (index : Nat) (touch : Channel.Touch)
    (draws : touch.draws = true) : house.Reaches (house.onChannel index (·.touch touch)) :=
  step_draw index draws ▸ house.reaches_step _

/-! ## Opening -/

/-- What is left of a house when the loading of a name came to an end. -/
def loadedAs (house : House) (pick : Nat) (name : String) (after : Service) :
    Except Archive.Fault Nat → House
  | .ok index =>
      { house with
        service := after
        loading := house.loading.eraseIdx pick
        loaded := (name, index) :: house.loaded }
  | .error _ => { house with service := after, loading := house.loading.eraseIdx pick }

theorem reaches_refresh {index : Nat} {published : Bool}
    (ends : Ends (refresh index) house.service (.ok published) after) :
    house.Reaches { house with service := after } := by
  replace ends := ends_act_bind.mp ends
  rcases ends_now_bind.mp ends with ⟨now, ends⟩
  replace ends := ends_ask_bind.mp ends
  rcases ends.after (keeps_render faceless_rooms _ _) with ⟨narrow, first, firstSame, ends⟩
  rcases ends.after (keeps_render faceless_rooms _ _) with ⟨wide, second, secondSame, ends⟩
  replace ends := ends_ask_bind.mp ends
  rcases ends_act.mp ends with ⟨-, rfl⟩
  have taken := house.reaches_draw index (.snapshot house.service.instant) rfl
  have drawn := taken.trans (reaches_aside (secondSame.trans firstSame))
  exact drawn.trans (House.reaches_draw _ index (.publish _ ⟨narrow, wide⟩ _) rfl)

theorem reaches_addInstance {name : String} {history : List Message} {active : Seconds}
    {pick : Nat} {reply : Except Archive.Fault Nat} (loading : house.loading[pick]? = some name)
    (ends : Ends (addInstance name history active) house.service (.ok reply) after) :
    house.Reaches (house.loadedAs pick name after reply) := by
  rcases ends.after (keeps_renderNotice faceless_rooms _ _) with ⟨narrow, first, firstSame, ends⟩
  rcases ends.after (keeps_renderNotice faceless_rooms _ _) with ⟨wide, second, secondSame, ends⟩
  rcases ends.after (keeps_rooms_randomBytes _) with ⟨random, third, thirdSame, ends⟩
  replace ends := ends_act_bind.mp ends
  rcases ends_bind.mp ends with ⟨_, drawn, refreshed, ends⟩
  rcases ends_discard.mp refreshed with ⟨published, refreshed⟩
  rcases ends_pure.mp ends with ⟨rfl, rfl⟩
  have aside : house.Reaches { house with service := third } :=
    reaches_aside (thirdSame.trans (secondSame.trans firstSame))
  let before : House := { house with service := third }
  let counter := UInt64.ofNat (Bytes.ofLittleEndian random)
  let channel := Channel.ofHistory name third.channelSettings history active counter
    ⟨narrow, wide⟩ third.instant
  have loads : before.step (.load pick history active counter ⟨narrow, wide⟩) =
      before.takeIn pick name channel := by
    simp only [step, before, loading]
    rfl
  have drawing : Ends (refresh third.channels.size) (before.takeIn pick name channel).service
      (.ok published) after := refreshed
  exact aside.trans ((loads ▸ before.reaches_step _).trans (reaches_refresh drawing))

/-- A name is loaded, or given up. -/
theorem reaches_load {name : String} {pick : Nat} {reply : Except Archive.Fault Nat}
    (loading : house.loading[pick]? = some name)
    (ends : Ends (load name) house.service (.ok reply) after) :
    house.Reaches (house.loadedAs pick name after reply) := by
  have gaveUp (fault : Archive.Fault) (same : after.rooms = house.service.rooms) :
      house.Reaches (house.loadedAs pick name after (.error fault)) :=
    (reaches_aside same).trans (House.reaches_step _ (.giveUp pick))
  rcases ends.after (Keeps.act fun _ => rfl : Keeps rooms _) with ⟨answer, first, firstSame, ends⟩
  cases answer with
  | error fault =>
      rcases ends_pure.mp ends with ⟨rfl, rfl⟩
      exact gaveUp fault firstSame
  | ok history =>
      rcases ends.after (Keeps.act fun _ => rfl : Keeps rooms _) with
        ⟨stored, second, secondSame, ends⟩
      have unchanged := secondSame.trans firstSame
      cases stored with
      | error fault =>
          rcases ends_pure.mp ends with ⟨rfl, rfl⟩
          exact gaveUp fault unchanged
      | ok stored =>
          obtain ⟨active, ends⟩ :
              ∃ active, Ends (addInstance name history active) second (.ok reply) after := by
            cases stored with
            | some active => exact ⟨active, ends⟩
            | none => exact ends_now_bind.mp ends
          let before : House := { house with service := second }
          have loads : before.Reaches (before.loadedAs pick name after reply) :=
            reaches_addInstance loading ends
          have same : before.loadedAs pick name after reply =
              house.loadedAs pick name after reply := by
            cases reply <;> rfl
          exact (reaches_aside unchanged).trans (same ▸ loads)

/-- What was loaded is put under its name and returned, or closed in favour of another. -/
theorem ends_insert_moves {name : String} {pick loaded : Nat} {reply : Except OpenFault Nat}
    (free : house.free = true) (waits : house.loaded[pick]? = some (name, loaded))
    (ends : Ends
      (do
        match ← insertLoaded name loaded with
        | some existing =>
            Service.onChannel loaded fun channel => ((), channel.close)
            return .ok existing
        | none =>
            startRefreshTimer loaded
            return .ok loaded)
      house.service (.ok reply) after) :
    ∃ final, house.Reaches final ∧ final.service = after ∧
      ∀ index, reply = .ok index → (name, index) ∈ final.given := by
  rcases ends_bind.mp ends with ⟨existing, stood, inserting, ends⟩
  rcases ends_act.mp inserting with ⟨rfl, rfl⟩
  have settles : house.Reaches (house.settle pick name loaded) := by
    have settled := house.reaches_step (.insert pick)
    simp only [step, waits] at settled
    rwa [if_pos free] at settled
  rw [settle] at settles
  cases stands : house.service.find? name with
  | some existing =>
      have kept : house.service.directory.insert house.service.isClosed name loaded =
          (some existing, house.service.directory) := by
        rw [Directory.insert,
          show house.service.directory.find? house.service.isClosed name = _ from stands]
      rw [kept] at settles ends
      rcases ends_bind.mp ends with ⟨_, closed, closing, ends⟩
      rcases ends_act.mp closing with ⟨-, rfl⟩
      rcases ends_pure.mp ends with ⟨rfl, rfl⟩
      refine ⟨_, settles.trans (House.reaches_step _ (.discard 0)), rfl, ?_⟩
      rintro _ ⟨⟩
      exact List.mem_cons_self
  | none =>
      have put : house.service.directory.insert house.service.isClosed name loaded =
          (none, (house.service.directory.insert house.service.isClosed name loaded).2) := by
        rw [Directory.insert,
          show house.service.directory.find? house.service.isClosed name = _ from stands]
      rw [put] at settles ends
      rcases ends_bind.mp ends with ⟨_, timed, timing, ends⟩
      rcases ends_pure.mp ends with ⟨rfl, rfl⟩
      have timer : after.rooms = _ := timing.keeps (Keeps.modify fun _ => rfl)
      refine ⟨_, settles.trans (reaches_aside timer), rfl, ?_⟩
      rintro _ ⟨⟩
      exact List.mem_cons_self

/-- A channel is opened by moves, and whoever opened it was given it. -/
theorem ends_openChannel_moves {name : String} {reply : Except OpenFault Nat}
    (free : house.free = true)
    (ends : Ends (openChannel name) house.service (.ok reply) after) :
    ∃ final, house.Reaches final ∧ final.service = after ∧
      ∀ index, reply = .ok index → (name, index) ∈ final.given := by
  rw [openChannel] at ends
  split at ends
  · rcases ends_pure.mp ends with ⟨rfl, rfl⟩
    exact ⟨house, .refl house, rfl, fun _ impossible => by cases impossible⟩
  case isFalse named =>
    replace ends := ends_ask_bind.mp ends
    have sought := house.reaches_step (.seek name)
    rw [step, free, eq_false_of_ne_true named] at sought
    simp only [Bool.not_false, Bool.and_self, if_true] at sought
    cases found : house.service.find? name with
    | some index =>
        rw [found] at ends sought
        rcases ends_pure.mp ends with ⟨rfl, rfl⟩
        refine ⟨_, sought, rfl, ?_⟩
        rintro _ ⟨⟩
        exact List.mem_cons_self
    | none =>
        rw [found] at ends sought
        rcases ends_bind.mp ends with ⟨answer, middle, loading, ends⟩
        let seeking : House := { house with loading := name :: house.loading }
        have loads := sought.trans (@reaches_load seeking middle name 0 answer rfl loading)
        cases answer with
        | error fault =>
            rcases ends_pure.mp ends with ⟨rfl, rfl⟩
            exact ⟨_, loads, rfl, fun _ impossible => by cases impossible⟩
        | ok loaded =>
            let waiting := seeking.loadedAs 0 name middle (.ok loaded)
            rcases @ends_insert_moves waiting after name 0 loaded reply free rfl ends with
              ⟨final, settles, same, given⟩
            exact ⟨final, loads.trans settles, same, given⟩

/-! ## Sweeping -/

/-- A house in which a sweep has kept some entries and has yet to look at others. -/
def sweptTo (house : House) (swept : List (String × Nat) × Array Channel)
    (rest : List (String × Nat)) : House :=
  { house with
    service := { house.service with
      channels := swept.2
      directory := { house.service.directory with entries := swept.1 ++ rest } }
    sweeping := some rest }

/-- A look at the next entry is one step of a sweep. -/
theorem step_check_sweptTo {swept : List (String × Nat) × Array Channel} {entry : String × Nat}
    {rest : List (String × Nat)} (distinct : (swept.1 ++ entry :: rest).Nodup) :
    (house.sweptTo swept (entry :: rest)).step (.check 0) =
      house.sweptTo (Service.sweep swept entry) rest := by
  have looked : (house.sweptTo swept (entry :: rest)).step (.check 0) =
      { (house.sweptTo swept (entry :: rest)).look entry with sweeping := some rest } := rfl
  rw [looked]
  cases idle : (swept.2.getD entry.2 Channel.shut).roster.isEmpty with
  | false =>
      have watched : ((house.sweptTo swept (entry :: rest)).service.channel entry.2).roster.isEmpty =
          false := idle
      rw [look_of_watched watched, Service.sweep_of_watched idle]
      simp [sweptTo]
  | true =>
      have absent : entry ∉ swept.1 ++ rest :=
        (List.nodup_cons.mp (List.nodup_middle.mp distinct)).1
      have others : (swept.1 ++ entry :: rest).filter (fun other => other ≠ entry) =
          swept.1 ++ rest := by
        rw [List.filter_append, List.filter_cons_of_neg (by simp), ← List.filter_append]
        refine List.filter_eq_self.mpr fun other member => decide_eq_true ?_
        rintro rfl
        exact absent member
      have vacant : ((house.sweptTo swept (entry :: rest)).service.channel entry.2).roster.isEmpty =
          true := idle
      rw [look, Channel.closeIfIdle_fst, if_pos vacant, Service.sweep_of_idle idle]
      dsimp only [onChannel, entries, sweptTo, withChannel]
      rw [others]
      rfl

theorem reaches_looks {swept : List (String × Nat) × Array Channel} {rest : List (String × Nat)}
    (distinct : (swept.1 ++ rest).Nodup) :
    (house.sweptTo swept rest).Reaches (house.sweptTo (rest.foldl Service.sweep swept) []) := by
  induction rest generalizing swept with
  | nil => exact .refl _
  | cons entry rest ih =>
      have look := House.reaches_step (house.sweptTo swept (entry :: rest)) (.check 0)
      rw [step_check_sweptTo distinct] at look
      refine look.trans (ih ?_)
      cases idle : (swept.2.getD entry.2 Channel.shut).roster.isEmpty with
      | false =>
          rw [Service.sweep_of_watched idle]
          simpa using distinct
      | true =>
          rw [Service.sweep_of_idle idle]
          exact (List.nodup_cons.mp (List.nodup_middle.mp distinct)).2

/-- A sweep that nothing interrupts begins, looks at one entry after the other, and ends. -/
theorem ends_purge_moves {count : Nat} (sound : house.Sound) (free : house.free = true)
    (ends : Ends purge house.service (.ok count) after) :
    house.Reaches { house with service := after } := by
  rcases ends_act.mp ends with ⟨-, rfl⟩
  have distinct : ([] ++ house.entries).Nodup := List.Nodup.of_map Prod.fst sound.keys
  have begins : house.Reaches (house.sweptTo ([], house.service.channels) house.entries) := by
    have began := house.reaches_step .sweep
    rw [step, if_pos free] at began
    exact began
  have looks := begins.trans (reaches_looks distinct)
  have released := looks.trans (House.reaches_step _ .release)
  simp only [step, sweptTo, viewers, entries, List.append_nil] at released
  rw [← sweeping_of_free free] at released
  exact released

end House

end FrameChat
