import FrameChat.Proofs.Channel.Attendance
import FrameChat.Proofs.Channel.Display

/-!
# What viewers see

A viewer finds the frame that is stored for its viewport when it comes, and is
offered every frame that is stored for it from then on.  It need not take them
all: what it does not take in time is replaced.  So it takes some of them, each
once and in their order, and always the one that is stored at that moment
(`viewers_see_latest`).
-/

namespace FrameChat.Channel.Course

variable {course : Course}

/-- What a viewer took and may take is of what was stored last when it came, and since. -/
structure Follows
    (course : Course)
    (session : Nat)
    (viewport : Viewport)
    (earlier : List Stamped) :
    Prop where
  given : session ≤ course.channel.lastSession
  watches : ∀ viewer, course.channel.roster.viewer? session = some viewer →
    viewer.viewport = viewport
  seen : ∃ since, course.stored viewport = earlier ++ since ∧
    (course.seen session).Sublist (earlier.getLast?.toList ++ since)

theorem Opened.follows
    {after : Course}
    {identity : String}
    {viewport : Viewport}
    {address : Net.Address}
    (opened : Opened identity viewport address course after)
    (ordered : course.Ordered) :
    after.Follows (course.channel.lastSession + 1) viewport (course.stored viewport) := by
  have viewer : after.channel.roster.viewer? (course.channel.lastSession + 1) = some _ :=
    congrArg Standing.viewer opened.standing
  have box : after.boxes (course.channel.lastSession + 1) =
      firstBox course.channel.settings.mailboxCapacity (course.cached viewport) :=
    congrArg Standing.box opened.standing
  have unborn := (ordered.unborn (course.channel.lastSession + 1) (Nat.lt_succ_self _)).1
  have fresh : after.taken (course.channel.lastSession + 1) = [] := by
    rw [taken, opened.stamped]
    exact (List.append_eq_nil_iff.mp unborn).1
  constructor
  case given => exact Nat.le_of_eq opened.lastSession.symm
  case watches =>
    intro listed found
    rw [viewer] at found
    cases found
    rfl
  case seen =>
    refine ⟨[], ?_, ?_⟩
    · rw [stored, opened.publications, List.append_nil, stored]
    · rw [seen, fresh, box, List.nil_append, List.append_nil]
      exact waiting_firstBox _ _

theorem follows_turn
    (attended : course.Attended)
    {session : Nat}
    {viewport : Viewport}
    {earlier : List Stamped}
    (follows : course.Follows session viewport earlier)
    (action : Action) :
    (course.turn action).Follows session viewport earlier := by
  rcases moved_turn attended.faithful attended.inOrder follows.given action with
    ⟨new, delivery, moved⟩
  constructor
  case given => exact Nat.le_trans follows.given (lastSession_le_turn attended.inOrder action)
  case watches =>
    intro viewer found
    rcases moved.move.viewer with same | gone
    · exact follows.watches viewer (same.symm.trans found)
    · exact nomatch gone.symm.trans found
  case seen =>
    rcases follows.seen with ⟨since, stored, seen⟩
    refine ⟨since ++ (new viewport).toList, ?_, ?_⟩
    · rw [moved.stored, stored, List.append_assoc]
    · rw [Course.seen, moved.taken, ← List.append_assoc]
      -- What is seen goes on with what waited before, or with the frame that replaces it.
      rcases moved.move.seen with kept | ⟨viewer, stamped, listed, drawn, none, one⟩
      · rw [List.append_assoc]
        have before := (List.Sublist.append_left kept (course.taken session)).trans seen
        exact before.trans (List.sublist_append_left _ _)
      · replace one : ((course.turn action).boxes session).waiting = [stamped] := one
        rw [follows.watches viewer listed] at drawn
        rw [none, one, drawn, Option.bind_none, Option.toList_none, List.append_nil]
        have before := (List.sublist_append_left _ _).trans seen
        exact before.append_right [stamped]

theorem follows_turns
    (attended : course.Attended)
    {session : Nat}
    {viewport : Viewport}
    {earlier : List Stamped}
    (follows : course.Follows session viewport earlier)
    (actions : List Action) :
    (course.turns actions).Follows session viewport earlier :=
  attended.holds_turns (Follows · session viewport earlier) follows
    (fun _ attended follows => follows_turn attended follows) actions

theorem drop_append_of_last {α : Type} (earlier since : List α) :
    (earlier ++ since).drop (earlier.length - 1) = earlier.getLast?.toList ++ since := by
  rcases List.eq_nil_or_concat earlier with rfl | ⟨before, last, rfl⟩
  · rfl
  · simp

/-- A viewer takes of the frames for its viewport, beginning with the one that it found. -/
theorem Follows.taken_sublist
    {session : Nat}
    {viewport : Viewport}
    {earlier : List Stamped}
    (follows : course.Follows session viewport earlier) :
    (course.taken session).Sublist ((course.stored viewport).drop (earlier.length - 1)) := by
  rcases follows.seen with ⟨since, stored, seen⟩
  rw [stored, drop_append_of_last]
  exact (List.sublist_append_left _ _).trans seen

/-- A frame is taken at a moment at which it is the one that is stored. -/
theorem cached_of_taken
    (attended : course.Attended)
    {action : Action}
    {session : Nat}
    {stamped : Stamped}
    (took : (course.turn action).taken session = course.taken session ++ [stamped]) :
    ∃ viewer, course.channel.roster.viewer? session = some viewer ∧
      course.cached viewer.viewport = some stamped := by
  by_cases given : session ≤ course.channel.lastSession
  · rcases moved_turn attended.faithful attended.inOrder given action with
      ⟨new, delivery, moved⟩
    have delivered : (delivery.bind Delivery.frame?).toList = [stamped] := by
      rw [moved.taken] at took
      exact List.append_cancel_left took
    have frame : delivery = some (.frame stamped) := by
      rcases delivery with _ | (frame | notice | _)
      · cases delivered
      · cases delivered
        rfl
      · cases delivered
      · cases delivered
    have move := moved.move
    rw [frame] at move
    exact (move.delivers (attended.sound session given) (attended.shows session given)).2
  · have nothing : (course.turn action).taken session = course.taken session := by
      rw [taken_eq_received, received_turn_of_unborn (Nat.not_le.mp given), taken_eq_received]
    rw [nothing] at took
    exact absurd took.symm (by simp)

/-- What waits for a listed viewer is what is stored for its viewport. -/
theorem Attended.waiting
    (attended : course.Attended)
    {viewer : Viewer}
    (listed : viewer ∈ course.channel.roster.viewers) :
    (course.channel.mailbox viewer.session).waiting = [] ∨
      ∃ frame, course.channel.frames.get viewer.viewport = some frame ∧
        (course.channel.mailbox viewer.session).waiting = [frame] := by
  have found : course.channel.roster.viewer? viewer.session = some viewer :=
    attended.inOrder.exact.mem_viewers.mp listed
  have given := attended.inOrder.given viewer.session viewer found
  have waiting : (course.channel.mailbox viewer.session).waiting =
      (course.boxes viewer.session).waiting.map Stamped.frame :=
    congrArg Mailbox.waiting (attended.faithful.mailboxes viewer.session)
  rw [waiting, attended.faithful.frames]
  rcases attended.shows viewer.session given viewer found with nothing | ⟨stamped, cached, one⟩
  · replace nothing : (course.boxes viewer.session).waiting = [] := nothing
    rw [nothing]
    exact Or.inl rfl
  · replace one : (course.boxes viewer.session).waiting = [stamped] := one
    rw [one, cached]
    exact Or.inr ⟨stamped.frame, rfl, rfl⟩

/-- The frames that a session received of the channel are those that it took. -/
theorem Faithful.frames_delivered (faithful : course.Faithful) (session : Nat) :
    (course.delivered session).filterMap Delivery.frame? =
      (course.taken session).map Stamped.frame := by
  rw [faithful.delivered_eq, taken_eq_received, List.filterMap_map, List.map_filterMap]
  congr 1
  funext delivery
  cases delivery <;> rfl

/--
However all take turns, and whatever cannot be drawn: in the mailbox of a listed
viewer waits nothing, or the frame that is stored for its viewport, and links and
bytes are those of that frame.  What a viewer takes is of the frames that were
stored for its viewport since it came, the one that it found included; it takes
each at most once, in their order, and only as long as it is the one stored.
-/
theorem viewers_see_latest
    (name : String)
    (settings : Settings)
    (history : List Message)
    (active : Seconds)
    (counter : UInt64)
    (notices : PerViewport Frame)
    (instant : Nat)
    (actions : List Action) :
    let begun := start name settings history active counter notices instant
    let course := begun.turns actions
    (∀ viewer ∈ course.channel.roster.viewers,
        (course.channel.mailbox viewer.session).waiting = [] ∨
          ∃ frame, course.channel.frames.get viewer.viewport = some frame ∧
            (course.channel.mailbox viewer.session).waiting = [frame]) ∧
      (∀ viewport, course.channel.display viewport =
        Display.of (course.renderings viewport).getLast?) ∧
      (∀ viewport, course.channel.frames.get viewport =
        (course.cached viewport).map Stamped.frame) ∧
      (∀ session, (course.delivered session).filterMap Delivery.frame? =
        (course.taken session).map Stamped.frame) ∧
      (∀ before identity viewport address rest session displaced entered,
        actions = before ++ .enter identity viewport address :: rest →
          (begun.turns before).channel.enter identity viewport address =
            (.entered session displaced, entered) →
          (course.taken session).Sublist
            ((course.stored viewport).drop (((begun.turns before).stored viewport).length - 1))) ∧
      (∀ viewport, (course.stored viewport).Pairwise fun earlier later =>
        earlier.number < later.number) ∧
      ∀ before action rest session stamped,
        actions = before ++ action :: rest →
          ((begun.turns before).turn action).taken session =
            (begun.turns before).taken session ++ [stamped] →
          ∃ viewer, (begun.turns before).channel.roster.viewer? session = some viewer ∧
            (begun.turns before).cached viewer.viewport = some stamped := by
  intro begun course
  have attendedAt (actions : List Action) : (begun.turns actions).Attended :=
    attended_turns (attended_start ..) actions
  have attended : course.Attended := attendedAt actions
  refine ⟨fun viewer listed => attended.waiting listed, ?displays, attended.faithful.frames,
    attended.faithful.frames_delivered, ?follows, ?ordered, ?latest⟩
  case displays =>
    rcases exists_run_of_turns begun actions with ⟨taken, same⟩
    have displays := displays_run (displays_start name settings history active counter notices
      instant) taken
    exact (congrArg Displays same).mpr displays
  case follows =>
    intro before identity viewport address rest session displaced entered split outcome
    have opened := opened_enter (attendedAt before).inOrder outcome
    have follows := opened.follows (attendedAt before).ordered
    have given : session = (begun.turns before).channel.lastSession + 1 :=
      (enter_of_entered outcome).1
    have whole : course =
        ((begun.turns before).step (.enter identity viewport address)).turns rest := by
      show begun.turns actions = _
      rw [split, turns_append]
      rfl
    have entering : ((begun.turns before).step (.enter identity viewport address)).Attended :=
      attended_turn (attendedAt before) (.enter identity viewport address)
    rw [whole, given]
    exact (follows_turns entering follows rest).taken_sublist
  case ordered =>
    intro viewport
    exact (attended.ordered.stored viewport).imp Stamped.Before.number
  case latest =>
    intro before action rest session stamped _ took
    exact cached_of_taken (attendedAt before) took

/-- Somebody watches while two frames are published one after the other. -/
def twoFrames : List Action :=
  [.enter "ann" .narrow (.v4 192 0 2 1), .snapshot 0, .publish 0 ⟨plain .narrow, none⟩ 1,
    .snapshot 0, .publish 0 ⟨plain .narrow, none⟩ 1]

/-- Who takes a frame only after the second was published never sees the first. -/
theorem viewers_see_latest_for_slow_viewer :
    let before := quiet.turns twoFrames
    let after := before.turn (.receive 1)
    let latest : Stamped := ⟨Frame.empty .narrow, 1, 1⟩
    after.stored .narrow = [⟨Frame.empty .narrow, 0, 1⟩, latest] ∧
      after.taken 1 = [latest] ∧
      (after.taken 1).Sublist (after.stored .narrow) ∧
      ∃ viewer, before.channel.roster.viewer? 1 = some viewer ∧
        before.cached viewer.viewport = some latest := by
  intro before after latest
  rcases viewers_see_latest "lobby" .standard [] 0 0 ⟨Frame.empty .narrow, Frame.empty .wide⟩ 0
    (twoFrames ++ [.receive 1]) with ⟨-, -, -, -, follows, -, current⟩
  have took : after.taken 1 = before.taken 1 ++ [latest] := rfl
  refine ⟨rfl, rfl, ?_, current twoFrames (.receive 1) [] 1 latest rfl took⟩
  exact follows [] "ann" .narrow (.v4 192 0 2 1) _ 1 false _ rfl rfl

end FrameChat.Channel.Course
