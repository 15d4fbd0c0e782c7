import FrameChat.Channel.Delivery
import FrameChat.Proofs.Channel.Mailboxes

/-!
# Courses of a channel

A refresh takes a snapshot, draws without holding the channel, and publishes
what it drew.  Between its two steps the channel may do anything else: take
messages and viewers, serve viewers, close, and take and publish other snapshots
in any order.  An `Action` is one such step, and a `Course` is what came of a
list of them.  Beside the channel a course keeps account of the snapshots that
are still being drawn, of all publications, and of the stamps of all frames.
Serving a connection is no action of its own: it comes to some deliveries
(`exists_receives_of_serve`).

The account is only kept, it decides nothing: `Course.Faithful` says that the
stamped frames are the frames of the channel, in its mailboxes, in its cache and
in what its viewers took, and `faithful_run` that they always are.
-/

namespace FrameChat.Channel

/-- One step on a channel. -/
inductive Action where
  | record (now : Seconds) (message : Message)
  | enter (identity : String) (viewport : Viewport) (address : Net.Address)
  | remove (session : Nat)
  | closeMailbox (session : Nat)
  /-- a viewer takes the next delivery from its mailbox -/
  | receive (session : Nat)
  | closeIfIdle
  | close
  | snapshot (instant : Nat)
  /-- publish what was drawn from one of the snapshots that are being drawn -/
  | publish (pick : Nat) (drawn : PerViewport (Option Rendering)) (renderMs : Nat)

/-- What was published of a snapshot. -/
structure Publication where
  /-- how many publications there were before -/
  number : Nat
  /-- the version of the snapshot -/
  version : Nat
  drawn : PerViewport (Option Rendering)

/-- The frame of a publication for a viewport. -/
def Publication.stamped? (publication : Publication) (viewport : Viewport) : Option Stamped :=
  (publication.drawn.get viewport).map fun rendering =>
    ⟨rendering.frame, publication.number, publication.version⟩

/-- What came of a list of actions. -/
structure Course where
  channel : Channel
  /-- the versions of the snapshots that are being drawn -/
  drawing : List Nat
  publications : List Publication
  boxes : Boxes
  /-- what viewers took, each with its session -/
  deliveries : List (Nat × Delivery Frame)
  /-- the same with stamps -/
  stamped : List (Nat × Delivery Stamped)

/-- Offer the frame of a publication to those who watch in a viewport. -/
def Boxes.publish (boxes : Boxes) (channel : Channel) (publication : Publication)
    (viewport : Viewport) : Boxes :=
  match publication.stamped? viewport with
  | none => boxes
  | some stamped => boxes.offerTo stamped (channel.sessionsIn viewport)

/-- The mailbox of a new session, with the last frame in it if there is one. -/
def firstBox (capacity : Nat) : Option Stamped → Mailbox Stamped
  | some stamped => ((Mailbox.empty capacity).offer stamped).2
  | none => Mailbox.empty capacity

/-- Give a new session its mailbox, after those of its identity were displaced. -/
def Boxes.enter (boxes : Boxes) (channel : Channel) (session : Nat) (identity : String)
    (cached : Option Stamped) : Boxes :=
  Function.update (boxes.displace channel.notices (channel.roster.ofIdentity identity)) session
    (firstBox channel.settings.mailboxCapacity cached)

namespace Course

/-- The beginning of a course: a channel that was loaded, before its first frames. -/
def start (name : String) (settings : Settings) (history : List Message) (active : Seconds)
    (counter : UInt64) (notices : PerViewport Frame) (instant : Nat) : Course where
  channel := ofHistory name settings history active counter notices instant
  drawing := []
  publications := []
  boxes := Boxes.blank settings.mailboxCapacity
  deliveries := []
  stamped := []

/-- The frames that were stored for a viewport, one after the other. -/
def stored (course : Course) (viewport : Viewport) : List Stamped :=
  course.publications.filterMap fun publication => publication.stamped? viewport

/-- The frame that is stored for a viewport. -/
def cached (course : Course) (viewport : Viewport) : Option Stamped :=
  (course.stored viewport).getLast?

/-- The frames that a viewer took, one after the other. -/
def taken (course : Course) (session : Nat) : List Stamped :=
  course.stamped.filterMap fun entry => if entry.1 = session then entry.2.frame? else none

/-- Nothing more is drawn of a snapshot. -/
def finish (course : Course) (pick : Nat) : Course :=
  { course with drawing := course.drawing.eraseIdx pick }

/-- Publish what was drawn from a snapshot of a version. -/
def publish (course : Course) (version : Nat) (drawn : PerViewport (Option Rendering))
    (renderMs : Nat) : Course :=
  match course.channel.publish version drawn renderMs with
  | (false, channel) => { course with channel }
  | (true, channel) =>
      let publication := ⟨course.publications.length, version, drawn⟩
      { course with
        channel
        publications := course.publications ++ [publication]
        boxes := (course.boxes.publish course.channel publication .narrow).publish course.channel
          publication .wide }

def step (course : Course) : Action → Course
  | .record now message => { course with channel := (course.channel.record now message).2 }
  | .enter identity viewport address =>
      match course.channel.enter identity viewport address with
      | (.entered session _, channel) =>
          { course with
            channel
            boxes := course.boxes.enter course.channel session identity (course.cached viewport) }
      | (_, channel) => { course with channel }
  | .remove session => { course with channel := (course.channel.remove session).2 }
  | .closeMailbox session =>
      { course with
        channel := course.channel.closeMailbox session
        boxes := course.boxes.close [session] }
  | .receive session =>
      let (delivery, channel) := course.channel.receive session
      let (stamped, box) := (course.boxes session).receive
      { course with
        channel
        boxes := Function.update course.boxes session box
        deliveries := course.deliveries ++ (delivery.map (session, ·)).toList
        stamped := course.stamped ++ (stamped.map (session, ·)).toList }
  | .closeIfIdle => { course with channel := course.channel.closeIfIdle.2 }
  | .close =>
      { course with
        channel := course.channel.close
        boxes := course.boxes.close (course.channel.roster.viewers.map Viewer.session) }
  | .snapshot instant =>
      let (snapshot, channel) := course.channel.snapshot instant
      { course with
        channel
        drawing := course.drawing ++ [snapshot.version] }
  | .publish pick drawn renderMs =>
      match course.drawing[pick]? with
      | none => course
      | some version => (course.finish pick).publish version drawn renderMs

def run (course : Course) (actions : List Action) : Course :=
  actions.foldl step course

/-- A frame without anything on it. -/
def plain (viewport : Viewport) : Option Rendering :=
  some ⟨Frame.empty viewport, []⟩

/-- A channel on which nothing has happened yet. -/
def quiet : Course :=
  start "lobby" .standard [] 0 0 ⟨Frame.empty .narrow, Frame.empty .wide⟩ 0

end Course

/-! ## What steps do to a channel -/

/-- The part of a channel that publications and new sessions write to, mailboxes aside. -/
structure Stage where
  frames : PerViewport (Option Frame)
  publishedVersion : Nat
  lastSession : Nat

def stage (channel : Channel) : Stage :=
  ⟨channel.frames, channel.publishedVersion, channel.lastSession⟩

/-- Steps that change neither the stage nor a mailbox. -/
structure Backstage (before after : Channel) : Prop where
  stage : after.stage = before.stage
  mailbox : after.mailbox = before.mailbox

theorem backstage_record (channel : Channel) (now : Seconds) (message : Message) :
    Backstage channel (channel.record now message).2 := by
  rw [record]
  split <;> exact ⟨rfl, rfl⟩

theorem backstage_remove (channel : Channel) (session : Nat) :
    Backstage channel (channel.remove session).2 := by
  rw [remove]
  split <;> exact ⟨rfl, rfl⟩

theorem backstage_closeIfIdle (channel : Channel) :
    Backstage channel channel.closeIfIdle.2 := by
  rw [closeIfIdle]
  split <;> exact ⟨rfl, rfl⟩

theorem backstage_snapshot (channel : Channel) (instant : Nat) :
    Backstage channel (channel.snapshot instant).2 :=
  ⟨rfl, rfl⟩

theorem offerTo_eq (frame : Frame) (sessions : List Nat) (channel : Channel) :
    ∃ mailboxes, (offerTo frame sessions channel).2 = { channel with mailboxes } := by
  induction sessions generalizing channel with
  | nil => exact ⟨channel.mailboxes, rfl⟩
  | cons session rest ih => exact ih (channel.setMailbox session _)

theorem foldl_closeMailbox_eq (sessions : List Nat) (channel : Channel) :
    ∃ mailboxes, sessions.foldl closeMailbox channel = { channel with mailboxes } := by
  induction sessions generalizing channel with
  | nil => exact ⟨channel.mailboxes, rfl⟩
  | cons session rest ih => exact ih (channel.closeMailbox session)

/-- Displacing viewers changes nothing but the roster and mailboxes. -/
theorem foldl_displace_eq (viewers : List Viewer) (channel : Channel) :
    ∃ roster mailboxes, viewers.foldl displace channel = { channel with roster, mailboxes } := by
  induction viewers generalizing channel with
  | nil => exact ⟨channel.roster, channel.mailboxes, rfl⟩
  | cons viewer rest ih => exact ih (channel.displace viewer)

theorem stage_close (channel : Channel) : channel.close.stage = channel.stage := by
  rcases foldl_closeMailbox_eq (channel.roster.viewers.map Viewer.session) channel with
    ⟨mailboxes, same⟩
  rw [close, same]
  rfl

theorem Boxes.Mirror.openSession {boxes : Boxes} {channel : Channel} {viewport : Viewport}
    {cached : Option Stamped} (mirror : boxes.Mirror channel)
    (frames : channel.frames.get viewport = cached.map Stamped.frame) (identity : String)
    (address : Net.Address) :
    Mirror
      (Function.update boxes (channel.lastSession + 1)
        (firstBox channel.settings.mailboxCapacity cached))
      (channel.openSession identity viewport address).2 := by
  have unlisted : boxes.Mirror
      { channel with
        lastSession := channel.lastSession + 1
        roster := (channel.roster.register
          ⟨channel.lastSession + 1, identity, viewport, address⟩).2
        version := channel.version + 1 } := mirror
  refine unlisted.set (channel.lastSession + 1) ?_
  rw [frames]
  cases cached with
  | none => rfl
  | some stamped =>
      exact congrArg Prod.snd
        (Mailbox.offer_map Stamped.frame (Mailbox.empty channel.settings.mailboxCapacity) stamped)

/-- A viewer who is let in gets the next session, and those of the same identity are displaced. -/
theorem enter_of_entered {channel after : Channel} {identity : String} {viewport : Viewport}
    {address : Net.Address} {session : Nat} {displaced : Bool}
    (entered : channel.enter identity viewport address = (.entered session displaced, after)) :
    session = channel.lastSession + 1 ∧
      after = (((channel.roster.ofIdentity identity).foldl displace channel).openSession identity
        viewport address).2 := by
  rw [enter] at entered
  split at entered
  · cases entered
  · dsimp only at entered
    split at entered
    · cases entered
    · rcases Prod.mk.inj entered with ⟨first, rfl⟩
      rcases Entry.entered.inj first with ⟨rfl, -⟩
      rcases foldl_displace_eq (channel.roster.ofIdentity identity) channel with
        ⟨roster, mailboxes, same⟩
      exact ⟨by rw [same]; rfl, rfl⟩

/-- Who is not let in leaves the channel as it was. -/
theorem enter_of_not_entered {channel after : Channel} {identity : String} {viewport : Viewport}
    {address : Net.Address} {entry : Entry}
    (refused : channel.enter identity viewport address = (entry, after))
    (outside : ∀ session displaced, entry ≠ .entered session displaced) : after = channel := by
  rw [enter] at refused
  split at refused
  · exact (Prod.mk.inj refused).2.symm
  · dsimp only at refused
    split at refused
    · exact (Prod.mk.inj refused).2.symm
    · exact absurd (Prod.mk.inj refused).1.symm (outside _ _)

theorem stage_enter {channel after : Channel} {identity : String} {viewport : Viewport}
    {address : Net.Address} {session : Nat} {displaced : Bool}
    (entered : channel.enter identity viewport address = (.entered session displaced, after)) :
    after.stage = { channel.stage with lastSession := session } := by
  rcases enter_of_entered entered with ⟨rfl, rfl⟩
  rcases foldl_displace_eq (channel.roster.ofIdentity identity) channel with
    ⟨roster, mailboxes, same⟩
  rw [same]
  rfl

theorem Boxes.Mirror.enter {boxes : Boxes} {channel after : Channel} {identity : String}
    {viewport : Viewport} {address : Net.Address} {session : Nat} {displaced : Bool}
    {cached : Option Stamped} (mirror : boxes.Mirror channel)
    (frames : channel.frames.get viewport = cached.map Stamped.frame)
    (entered : channel.enter identity viewport address = (.entered session displaced, after)) :
    (boxes.enter channel session identity cached).Mirror after := by
  rcases enter_of_entered entered with ⟨rfl, rfl⟩
  have displaced := mirror.displace (channel.roster.ofIdentity identity)
  rcases foldl_displace_eq (channel.roster.ofIdentity identity) channel with
    ⟨roster, mailboxes, same⟩
  rw [same] at displaced ⊢
  exact displaced.openSession frames identity address

/-- Storing a rendering writes to frames and mailboxes, and not to the roster. -/
theorem store_spec (channel : Channel) (viewport : Viewport) (rendering : Option Rendering) :
    (channel.store viewport rendering).roster = channel.roster ∧
      (channel.store viewport rendering).lastSession = channel.lastSession ∧
      ∀ other, (channel.store viewport rendering).frames.get other =
        if other = viewport then (rendering.map Rendering.frame).or (channel.frames.get other)
        else channel.frames.get other := by
  cases rendering with
  | none => exact ⟨rfl, rfl, fun other => by split <;> rfl⟩
  | some rendering =>
      rcases offerTo_eq rendering.frame (channel.sessionsIn viewport) channel with ⟨mailboxes, same⟩
      rw [store]
      dsimp only
      rw [same]
      refine ⟨rfl, rfl, fun other => ?_⟩
      split
      case isTrue here =>
        rw [here]
        exact PerViewport.get_set_same _ _ _
      case isFalse differ => exact PerViewport.get_set_of_ne _ _ differ

/-- A publication goes through if it does not come too late and something was drawn. -/
theorem publish_of_true {channel after : Channel} {version : Nat}
    {drawn : PerViewport (Option Rendering)} {renderMs : Nat}
    (published : channel.publish version drawn renderMs = (true, after)) :
    channel.publishedVersion ≤ version ∧
      after =
        { (channel.store .narrow drawn.narrow).store .wide drawn.wide with
          publishedVersion := version
          lastRenderMs := renderMs } := by
  rw [publish] at published
  split at published
  case isTrue => cases (Prod.mk.inj published).1
  case isFalse inTime =>
    split at published
    · cases (Prod.mk.inj published).1
    · exact ⟨Nat.not_lt.mp inTime, (Prod.mk.inj published).2.symm⟩

/-- A publication that is dropped came too late, or nothing was drawn; it changes nothing. -/
theorem publish_of_false {channel after : Channel} {version : Nat}
    {drawn : PerViewport (Option Rendering)} {renderMs : Nat}
    (dropped : channel.publish version drawn renderMs = (false, after)) :
    after = channel ∧
      (version < channel.publishedVersion ∨ ∀ viewport, drawn.get viewport = none) := by
  rw [publish] at dropped
  split at dropped
  case isTrue late => exact ⟨(Prod.mk.inj dropped).2.symm, Or.inl late⟩
  case isFalse =>
    split at dropped
    case isTrue nothing =>
      refine ⟨(Prod.mk.inj dropped).2.symm, Or.inr fun viewport => ?_⟩
      rcases Bool.and_eq_true_iff.mp nothing with ⟨narrow, wide⟩
      cases viewport with
      | narrow => exact Option.isNone_iff_eq_none.mp narrow
      | wide => exact Option.isNone_iff_eq_none.mp wide
    case isFalse => cases (Prod.mk.inj dropped).1

theorem frames_publish {channel after : Channel} {version : Nat}
    {drawn : PerViewport (Option Rendering)} {renderMs : Nat}
    (published : channel.publish version drawn renderMs = (true, after)) (viewport : Viewport) :
    after.frames.get viewport =
      ((drawn.get viewport).map Rendering.frame).or (channel.frames.get viewport) := by
  rcases publish_of_true published with ⟨-, rfl⟩
  show ((channel.store .narrow drawn.narrow).store .wide drawn.wide).frames.get viewport = _
  rw [(store_spec _ .wide drawn.wide).2.2, (store_spec channel .narrow drawn.narrow).2.2]
  cases viewport <;> rfl

theorem lastSession_publish {channel after : Channel} {version : Nat}
    {drawn : PerViewport (Option Rendering)} {renderMs : Nat}
    (published : channel.publish version drawn renderMs = (true, after)) :
    after.lastSession = channel.lastSession := by
  rcases publish_of_true published with ⟨-, rfl⟩
  exact (store_spec _ .wide drawn.wide).2.1.trans (store_spec channel .narrow drawn.narrow).2.1

theorem Boxes.Mirror.store {boxes : Boxes} {channel : Channel} (mirror : boxes.Mirror channel)
    (publication : Publication) (viewport : Viewport) :
    (boxes.publish channel publication viewport).Mirror
      (channel.store viewport (publication.drawn.get viewport)) := by
  rw [Boxes.publish, Publication.stamped?]
  cases publication.drawn.get viewport with
  | none => exact mirror
  | some rendering =>
      exact mirror.offerTo ⟨rendering.frame, publication.number, publication.version⟩
        (channel.sessionsIn viewport)

theorem Boxes.Mirror.publish {boxes : Boxes} {channel after : Channel}
    (mirror : boxes.Mirror channel) {publication : Publication} {renderMs : Nat}
    (published : channel.publish publication.version publication.drawn renderMs = (true, after)) :
    ((boxes.publish channel publication .narrow).publish channel publication .wide).Mirror
      after := by
  rcases publish_of_true published with ⟨-, rfl⟩
  have narrow := mirror.store publication .narrow
  have sameRoster := (store_spec channel .narrow (publication.drawn.get .narrow)).1
  have sameSessions : (channel.store .narrow (publication.drawn.get .narrow)).sessionsIn .wide =
      channel.sessionsIn .wide := by
    rw [sessionsIn, sameRoster, sessionsIn]
  have both := narrow.store publication .wide
  rw [Boxes.publish, sameSessions] at both
  exact both

namespace Course

/-- The stamped frames are the frames of the channel. -/
structure Faithful (course : Course) : Prop where
  mailboxes : course.boxes.Mirror course.channel
  frames : ∀ viewport,
    course.channel.frames.get viewport = (course.cached viewport).map Stamped.frame
  deliveries : course.deliveries =
    course.stamped.map fun entry => (entry.1, entry.2.map Stamped.frame)

theorem publish_of_dropped {course : Course} {version : Nat}
    {drawn : PerViewport (Option Rendering)} {renderMs : Nat} {after : Channel}
    (dropped : course.channel.publish version drawn renderMs = (false, after)) :
    course.publish version drawn renderMs = course := by
  rw [publish, dropped, (publish_of_false dropped).1]

/-- What a publication adds to a course. -/
theorem publish_of_published {course : Course} {version : Nat}
    {drawn : PerViewport (Option Rendering)} {renderMs : Nat} {after : Channel}
    (published : course.channel.publish version drawn renderMs = (true, after)) :
    course.publish version drawn renderMs =
      { course with
        channel := after
        publications := course.publications ++ [⟨course.publications.length, version, drawn⟩]
        boxes := (course.boxes.publish course.channel
          ⟨course.publications.length, version, drawn⟩ .narrow).publish course.channel
            ⟨course.publications.length, version, drawn⟩ .wide } := by
  rw [publish, published]

/-- A publication in a course is one on its channel. -/
theorem channel_step_publish {course : Course} {pick version : Nat}
    (picked : course.drawing[pick]? = some version) (drawn : PerViewport (Option Rendering))
    (renderMs : Nat) :
    (course.step (.publish pick drawn renderMs)).channel =
      (course.channel.publish version drawn renderMs).2 := by
  rw [step, picked]
  show ((course.finish pick).publish version drawn renderMs).channel = _
  rw [publish]
  split
  case h_1 dropped => exact (congrArg Prod.snd dropped).symm
  case h_2 stored => exact (congrArg Prod.snd stored).symm

theorem cached_publish {course : Course} {version : Nat}
    {drawn : PerViewport (Option Rendering)} {renderMs : Nat} {after : Channel}
    (published : course.channel.publish version drawn renderMs = (true, after))
    (viewport : Viewport) :
    (course.publish version drawn renderMs).cached viewport =
      ((drawn.get viewport).map fun rendering =>
        (⟨rendering.frame, course.publications.length, version⟩ : Stamped)).or
          (course.cached viewport) := by
  rw [publish_of_published published, cached, stored, List.filterMap_append, List.getLast?_append,
    List.filterMap_cons, Publication.stamped?]
  cases drawn.get viewport <;> rfl

theorem Faithful.backstage {course : Course} (faithful : course.Faithful) {after : Channel}
    (backstage : Backstage course.channel after) (drawing : List Nat) :
    Faithful { course with channel := after, drawing } where
  mailboxes := fun session => by
    rw [backstage.mailbox]
    exact faithful.mailboxes session
  frames := fun viewport => by
    have same : after.frames = course.channel.frames := congrArg Stage.frames backstage.stage
    rw [same]
    exact faithful.frames viewport
  deliveries := faithful.deliveries

theorem Faithful.publish {course : Course} (faithful : course.Faithful) (version : Nat)
    (drawn : PerViewport (Option Rendering)) (renderMs : Nat) :
    (course.publish version drawn renderMs).Faithful := by
  cases outcome : course.channel.publish version drawn renderMs with
  | mk published after =>
      cases published with
      | false =>
          rw [publish_of_dropped outcome]
          exact faithful
      | true =>
          have frames (viewport : Viewport) : after.frames.get viewport =
              ((course.publish version drawn renderMs).cached viewport).map Stamped.frame := by
            rw [frames_publish outcome, faithful.frames viewport, cached_publish outcome]
            cases drawn.get viewport <;> rfl
          rw [publish_of_published outcome] at frames ⊢
          exact ⟨faithful.mailboxes.publish outcome, frames, faithful.deliveries⟩

theorem faithful_step {course : Course} (faithful : course.Faithful) (action : Action) :
    (course.step action).Faithful := by
  cases action with
  | record now message =>
      exact faithful.backstage (backstage_record course.channel now message) course.drawing
  | enter identity viewport address =>
      rw [step]
      split
      case h_1 session displaced after entered =>
        refine ⟨faithful.mailboxes.enter (faithful.frames viewport) entered, fun other => ?_,
          faithful.deliveries⟩
        have same : after.frames = course.channel.frames :=
          congrArg Stage.frames (stage_enter entered)
        rw [same]
        exact faithful.frames other
      case h_2 entry after outside refused =>
        rw [enter_of_not_entered refused outside]
        exact faithful
  | remove session =>
      exact faithful.backstage (backstage_remove course.channel session) course.drawing
  | closeMailbox session =>
      exact ⟨faithful.mailboxes.close [session], faithful.frames, faithful.deliveries⟩
  | receive session =>
      have received : (course.channel.mailbox session).receive =
          ((course.boxes session).receive.1.map (Delivery.map Stamped.frame),
            (course.boxes session).receive.2.map Stamped.frame) := by
        rw [faithful.mailboxes session, Mailbox.receive_map]
      refine ⟨faithful.mailboxes.set session (congrArg Prod.snd received), faithful.frames, ?_⟩
      have delivered : (course.channel.receive session).1 =
          (course.boxes session).receive.1.map (Delivery.map Stamped.frame) :=
        congrArg Prod.fst received
      show course.deliveries ++ ((course.channel.receive session).1.map (session, ·)).toList = _
      rw [delivered, faithful.deliveries]
      show _ = List.map _ (course.stamped ++
        ((course.boxes session).receive.1.map (session, ·)).toList)
      rw [List.map_append]
      cases (course.boxes session).receive.1 <;> rfl
  | closeIfIdle => exact faithful.backstage (backstage_closeIfIdle course.channel) course.drawing
  | close =>
      refine ⟨faithful.mailboxes.close _, fun viewport => ?_, faithful.deliveries⟩
      have same : course.channel.close.frames = course.channel.frames :=
        congrArg Stage.frames (stage_close course.channel)
      exact same ▸ faithful.frames viewport
  | snapshot instant =>
      exact faithful.backstage (backstage_snapshot course.channel instant) _
  | publish pick drawn renderMs =>
      rw [step]
      split
      · exact faithful
      · have finished : (course.finish pick).Faithful :=
          ⟨faithful.mailboxes, faithful.frames, faithful.deliveries⟩
        exact finished.publish _ drawn renderMs

theorem faithful_start (name : String) (settings : Settings) (history : List Message)
    (active : Seconds) (counter : UInt64) (notices : PerViewport Frame) (instant : Nat) :
    (start name settings history active counter notices instant).Faithful := by
  refine ⟨fun session => rfl, fun viewport => ?_, rfl⟩
  exact PerViewport.get_both none viewport

theorem faithful_run {course : Course} (faithful : course.Faithful) (actions : List Action) :
    (course.run actions).Faithful := by
  induction actions generalizing course with
  | nil => exact faithful
  | cons action rest ih => exact ih (faithful_step faithful action)

/-! ## Connections -/

theorem channel_receive (course : Course) (session : Nat) :
    (course.step (.receive session)).channel =
      course.channel.setMailbox session (course.channel.mailbox session).receive.2 := rfl

/-- Deliveries empty a mailbox one by one; the last of them finds nothing there. -/
theorem channel_receives {course : Course} {session capacity : Nat} {waiting : List Frame} {closed : Bool}
    (box : course.channel.mailbox session = ⟨capacity, waiting, none, closed⟩) :
    (course.run (List.replicate (waiting.length + 1) (.receive session))).channel =
      course.channel.setMailbox session ⟨capacity, [], none, closed⟩ := by
  induction waiting generalizing course with
  | nil =>
      show (course.step (.receive session)).channel = _
      rw [channel_receive, box]
      rfl
  | cons frame rest ih =>
      have taken : (course.step (.receive session)).channel =
          course.channel.setMailbox session ⟨capacity, rest, none, closed⟩ := by
        rw [channel_receive, box]
        rfl
      have left : (course.step (.receive session)).channel.mailbox session =
          ⟨capacity, rest, none, closed⟩ := by
        rw [taken, mailbox_setMailbox, if_pos rfl]
      show ((course.step (.receive session)).run
        (List.replicate (rest.length + 1) (.receive session))).channel = _
      rw [ih left, taken, setMailbox_setMailbox]

/-- Serving a connection comes to some deliveries, whatever was written of them. -/
theorem exists_receives_of_serve (course : Course) (session : Nat) (allowance : Allowance) :
    ∃ count, (course.run (List.replicate count (.receive session))).channel =
      (course.channel.serveSession session allowance).2 := by
  rw [serveSession]
  cases box : course.channel.mailbox session with
  | mk capacity waiting notice closed =>
      cases notice with
      | none => exact ⟨waiting.length + 1, channel_receives box⟩
      | some notice =>
          refine ⟨1, ?_⟩
          show (course.step (.receive session)).channel = _
          rw [channel_receive, box]
          rfl

end Course

end FrameChat.Channel
