import FrameChat.Proofs.Channel.Attendance

/-!
# How deliveries end

What a session receives begins with frames.  Then it may be told that its
identity reconnected, and after that, or without that, there is nothing but the
end (`Told`).  Four things bring it about, in any order: publications offer
frames, a new session of the identity displaces the old one, a leave shuts the
mailbox, and so does closing the channel.  What keeps them apart is that only the
mailbox of a listed viewer of an open channel is open for frames and notices:
`Standing.Fits` says so together with what was received.
-/

namespace FrameChat.Channel

/-- Frames, then perhaps a notice, and then nothing but the end. -/
def Told {α : Type} (deliveries : List (Delivery α)) : Prop :=
  ∃ (frames : List α) (notice : Option α) (count : Nat),
    deliveries = frames.map .frame ++ notice.toList.map .displaced ++ List.replicate count .closed

theorem Told.map {α β : Type} {deliveries : List (Delivery α)}
    (told : Told deliveries)
    (change : α → β) :
    Told (deliveries.map (Delivery.map change)) := by
  rcases told with ⟨frames, notice, count, rfl⟩
  refine ⟨frames.map change, notice.map change, count, ?_⟩
  have shown : Delivery.map change ∘ Delivery.frame = Delivery.frame ∘ change := rfl
  cases notice with
  | none => simp [shown, Delivery.map]
  | some notice => simp [shown, Delivery.map]

theorem told_frames {α : Type} (frames : List α) :
    Told (frames.map Delivery.frame) :=
  ⟨frames, none, 0, by simp⟩

theorem Told.append_closed {α : Type} {deliveries : List (Delivery α)} (told : Told deliveries) :
    Told (deliveries ++ [.closed]) := by
  rcases told with ⟨frames, notice, count, rfl⟩
  exact ⟨frames, notice, count + 1, by rw [List.append_assoc, ← List.replicate_succ']⟩

namespace Standing

/-- As long as more than the end may come, nothing but frames was received. -/
def Fits (standing : Standing) (received : List (Delivery Stamped)) : Prop :=
  (∃ frames : List Stamped, received = frames.map .frame) ∨
    (standing.box.closed = true ∧ standing.box.notice = none ∧ Told received)

theorem Fits.told
    {standing : Standing}
    {received : List (Delivery Stamped)}
    (fits : standing.Fits received) :
    Told received := by
  rcases fits with ⟨frames, rfl⟩ | ⟨-, -, told⟩
  · exact told_frames frames
  · exact told

/-- Off the roster, or on that of a closed channel. -/
def Over (standing : Standing) : Prop :=
  standing.viewer = none ∨ standing.closed = true

section Moves

variable {notices : PerViewport Frame} {action : Action} {new : Viewport → Option Stamped}
  {before after : Standing} {delivery : Option (Delivery Stamped)}

theorem fits_receive
    {viewer : Option Viewer}
    {box : Mailbox Stamped}
    {closed : Bool}
    {received : List (Delivery Stamped)}
    (sound : Sound ⟨viewer, box, closed⟩)
    (fits : Fits ⟨viewer, box, closed⟩ received) :
    Fits ⟨viewer, box.receive.2, closed⟩ (received ++ box.receive.1.toList) := by
  rcases box with ⟨capacity, waiting, notice, shut⟩
  cases notice with
  | some notice =>
      -- A notice is there only if the mailbox is closed and nothing but frames was received.
      rcases fits with ⟨frames, rfl⟩ | ⟨-, none, -⟩
      · refine Or.inr ⟨?_, rfl, frames, some notice, 0, ?_⟩
        · show shut = true
          cases shut with
          | true => rfl
          | false => cases sound.silent rfl
        · exact (List.append_nil _).symm
      · cases none
  | none =>
      cases waiting with
      | cons frame rest =>
          rcases fits with ⟨frames, rfl⟩ | ⟨isShut, -, -⟩
          · exact Or.inl ⟨frames ++ [frame], by simp [Mailbox.receive]⟩
          · cases sound.emptied isShut
      | nil =>
          cases shut with
          | true => exact Or.inr ⟨rfl, rfl, fits.told.append_closed⟩
          | false =>
              show Fits _ (received ++ [])
              rw [List.append_nil]
              exact fits

/-- What was received fits after every move. -/
theorem Move.fits
    (move : Move notices action new before delivery after)
    (sound : before.Sound)
    {received : List (Delivery Stamped)}
    (fits : before.Fits received) :
    after.Fits (received ++ delivery.toList) := by
  cases move with
  | stay _ => exact (List.append_nil received).symm ▸ fits
  | @offered viewer box closed stamped drawn =>
      rw [Option.toList_none, List.append_nil]
      cases shut : box.closed with
      | true =>
          rw [offer_of_closed shut]
          exact fits
      | false =>
          rcases fits with frames | ⟨isShut, -, -⟩
          · exact Or.inl frames
          · exact nomatch shut.symm.trans isShut
  | @displaced viewer box viewport came =>
      rw [Option.toList_none, List.append_nil]
      rcases fits with frames | ⟨isShut, -, -⟩
      · exact Or.inl frames
      · exact nomatch isShut.symm.trans (sound.listed viewer rfl).1
  | left =>
      rw [Option.toList_none, List.append_nil]
      exact fits
  | shut =>
      rw [Option.toList_none, List.append_nil]
      rcases fits with frames | ⟨-, none, told⟩
      · exact Or.inl frames
      · exact Or.inr ⟨rfl, none, told⟩
  | @ended viewer box closed =>
      rw [Option.toList_none, List.append_nil]
      rcases fits with frames | ⟨isShut, none, told⟩
      · exact Or.inl frames
      · cases viewer with
        | none => exact Or.inr ⟨isShut, none, told⟩
        | some viewer => exact Or.inr ⟨rfl, none, told⟩
  | received _ _ => exact fits_receive sound fits

theorem Move.isOver
    (move : Move notices action new before delivery after)
    (isOver : before.Over) :
    after.Over := by
  rcases isOver with gone | closed
  · rcases move.viewer with same | none
    · exact Or.inl (same.trans gone)
    · exact Or.inl none
  · cases move with
    | stay _ => exact Or.inr closed
    | offered _ => exact Or.inr closed
    | displaced _ => exact Or.inl rfl
    | left => exact Or.inl rfl
    | shut => exact Or.inr closed
    | ended => exact Or.inr rfl
    | received _ _ => exact Or.inr closed

/-- Once it is over, no frame is delivered. -/
theorem Move.frameless
    (move : Move notices action new before delivery after)
    (sound : before.Sound)
    {cached : Viewport → Option Stamped}
    (shows : before.Shows cached)
    (isOver : before.Over) :
    delivery.bind Delivery.frame? = none := by
  rcases delivery with _ | (frame | notice | _)
  · rfl
  · rcases move.delivers sound shows with ⟨isOpen, viewer, listed, -⟩
    rcases isOver with gone | closed
    · exact nomatch gone.symm.trans listed
    · exact nomatch closed.symm.trans isOpen
  · rfl
  · rfl

/-- Off the roster, with nothing in the mailbox but perhaps a notice. -/
structure Left (standing : Standing) (notice : Option Stamped) : Prop where
  viewer : standing.viewer = none
  closed : standing.box.closed = true
  waiting : standing.box.waiting = []
  notice : standing.box.notice = notice

/-- Who is off the roster receives the notice first, if there is one, and then the end. -/
theorem Move.of_left
    (move : Move notices action new before delivery after)
    {notice : Option Stamped}
    (left : before.Left notice) :
    (delivery = none ∧ after.Left notice) ∨
      ∃ received, delivery = some received ∧ after.Left none ∧
        received = (notice.elim .closed .displaced) := by
  cases move with
  | stay _ => exact Or.inl ⟨rfl, left⟩
  | offered _ => cases left.viewer
  | displaced _ => cases left.viewer
  | left => cases left.viewer
  | shut => exact Or.inl ⟨rfl, rfl, rfl, rfl, left.notice⟩
  | ended =>
      cases left.viewer
      exact Or.inl ⟨rfl, rfl, left.closed, left.waiting, left.notice⟩
  | @received viewer box closed undrawn allowed =>
      rcases box with ⟨capacity, waiting, pending, shut⟩
      rcases left with ⟨gone, isShut, nothing, same⟩
      cases gone
      cases isShut
      cases nothing
      cases same
      cases pending with
      | none => exact Or.inr ⟨.closed, rfl, ⟨rfl, rfl, rfl, rfl⟩, rfl⟩
      | some pending => exact Or.inr ⟨.displaced pending, rfl, ⟨rfl, rfl, rfl, rfl⟩, rfl⟩

/-- A notice is delivered or waits after a move if it did before, or its viewer is displaced now. -/
theorem Move.noticed
    (move : Move notices action new before delivery after)
    {notice : Stamped}
    (noticed : delivery = some (.displaced notice) ∨ after.box.notice = some notice) :
    before.box.notice = some notice ∨
      ∃ viewer viewport, before.viewer = some viewer ∧ after.viewer = none ∧
        action = .enter viewer.identity viewport viewer.address ∧
        notice = .ofNotice (notices.get viewer.viewport) := by
  cases move with
  | stay _ => exact Or.inl (noticed.resolve_left nofun)
  | @offered viewer box closed stamped drawn =>
      refine Or.inl ?_
      replace noticed : (box.offer stamped).2.notice = some notice := noticed.resolve_left nofun
      cases shut : box.closed with
      | true =>
          rw [offer_of_closed shut] at noticed
          exact noticed
      | false => exact (offer_of_open shut stamped).2.1.symm.trans noticed
  | @displaced viewer box viewport came =>
      refine Or.inr ⟨viewer, viewport, rfl, rfl, came, ?_⟩
      cases noticed.resolve_left nofun
      rfl
  | left => exact Or.inl (noticed.resolve_left nofun)
  | shut => exact Or.inl (noticed.resolve_left nofun)
  | @ended viewer box closed =>
      refine Or.inl ?_
      cases viewer with
      | none => exact noticed.resolve_left nofun
      | some viewer => exact noticed.resolve_left nofun
  | @received viewer box closed undrawn allowed =>
      refine Or.inl ?_
      rcases box with ⟨capacity, waiting, pending, shut⟩
      cases pending with
      | some pending =>
          rcases noticed with delivered | still
          · cases delivered
            rfl
          · cases still
      | none =>
          rcases noticed with delivered | still
          · cases waiting with
            | cons frame rest => cases delivered
            | nil => cases shut <;> cases delivered
          · have silent := @receive_of_silent _ (⟨capacity, waiting, none, shut⟩ : Mailbox Stamped) rfl
            exact nomatch silent.1.symm.trans still

end Moves

end Standing

/-! ## Courses -/

namespace Course

variable {course : Course}

/-- What every session that was given out received fits its standing. -/
def Fitting (course : Course) : Prop :=
  ∀ session ≤ course.channel.lastSession,
    (course.standing session).Fits (course.received session)

theorem fitting_turn
    (attended : course.Attended)
    (fitting : course.Fitting)
    (action : Action) :
    (course.turn action).Fitting := by
  intro session given
  by_cases old : session ≤ course.channel.lastSession
  · rcases moved_turn attended.faithful attended.inOrder old action with ⟨new, delivery, moved⟩
    rw [moved.received]
    exact moved.move.fits (attended.sound session old) (fitting session old)
  · have unborn := Nat.not_le.mp old
    rw [received_turn_of_unborn unborn, attended.unborn session unborn]
    exact Or.inl ⟨[], rfl⟩

theorem fitting_turns
    (attended : course.Attended)
    (fitting : course.Fitting)
    (actions : List Action) :
    (course.turns actions).Fitting :=
  attended.holds_turns Fitting fitting (fun _ => fitting_turn) actions

theorem told_delivered
    (attended : course.Attended)
    (fitting : course.Fitting)
    (session : Nat) :
    Told (course.delivered session) := by
  rw [attended.faithful.delivered_eq]
  by_cases given : session ≤ course.channel.lastSession
  · exact (fitting session given).told.map Stamped.frame
  · rw [attended.unborn session (Nat.not_le.mp given)]
    exact told_frames []

/-! ## After the end -/

/-- What is received when it is over is no frame, and it stays over. -/
theorem received_turns_of_over
    (attended : course.Attended)
    {session : Nat}
    (given : session ≤ course.channel.lastSession)
    (isOver : (course.standing session).Over)
    (actions : List Action) :
    ∃ later, (course.turns actions).received session = course.received session ++ later ∧
      later.filterMap Delivery.frame? = [] := by
  induction actions generalizing course with
  | nil => exact ⟨[], (List.append_nil _).symm, rfl⟩
  | cons action rest ih =>
      rcases moved_turn attended.faithful attended.inOrder given action with
        ⟨new, delivery, moved⟩
      have stillGiven := Nat.le_trans given (lastSession_le_turn attended.inOrder action)
      have frameless := moved.move.frameless (attended.sound session given)
        (attended.shows session given) isOver
      rcases ih (attended_turn attended action) stillGiven (moved.move.isOver isOver) with
        ⟨later, received, none⟩
      refine ⟨delivery.toList ++ later, ?_, ?_⟩
      · rw [← List.append_assoc, ← moved.received]
        exact received
      · rw [List.filterMap_append, none, List.append_nil]
        cases delivery with
        | none => rfl
        | some delivery =>
            cases delivery with
            | frame content => cases frameless
            | displaced notice => rfl
            | closed => rfl

theorem delivered_turns_of_over
    (attended : course.Attended)
    {session : Nat}
    (given : session ≤ course.channel.lastSession)
    (isOver : (course.standing session).Over)
    (actions : List Action) :
    ∃ later, (course.turns actions).delivered session = course.delivered session ++ later ∧
      ∀ frame, .frame frame ∉ later := by
  rcases received_turns_of_over attended given isOver actions with ⟨later, received, frameless⟩
  refine ⟨later.map (Delivery.map Stamped.frame), ?_, fun frame member => ?_⟩
  · rw [(attended_turns attended actions).faithful.delivered_eq, received, List.map_append,
      attended.faithful.delivered_eq]
  · rcases List.mem_map.mp member with ⟨stamped | notice | _, received, same⟩
    · have none := List.filterMap_eq_nil_iff.mp frameless _ received
      cases none
    · cases same
    · cases same

/-- A session was given out, and is off the roster. -/
structure Gone (course : Course) (session : Nat) : Prop where
  given : session ≤ course.channel.lastSession
  unlisted : course.channel.roster.viewer? session = none

theorem gone_turn
    (attended : course.Attended)
    {session : Nat}
    (gone : course.Gone session)
    (action : Action) :
    (course.turn action).Gone session := by
  rcases moved_turn attended.faithful attended.inOrder gone.given action with
    ⟨new, delivery, moved⟩
  constructor
  case given => exact Nat.le_trans gone.given (lastSession_le_turn attended.inOrder action)
  case unlisted =>
    rcases moved.move.viewer with same | none
    · exact same.trans gone.unlisted
    · exact none

/-- Who is off the roster does not come back. -/
theorem gone_turns
    (attended : course.Attended)
    {session : Nat}
    (gone : course.Gone session)
    (actions : List Action) :
    (course.turns actions).Gone session :=
  attended.holds_turns (Gone · session) gone (fun _ attended gone => gone_turn attended gone)
    actions

/-- Who left or was displaced receives the notice once, if there is one, and then the end. -/
theorem received_turns_of_left
    (attended : course.Attended)
    {session : Nat}
    (given : session ≤ course.channel.lastSession)
    {notice : Option Stamped}
    (left : (course.standing session).Left notice)
    (actions : List Action) :
    ∃ later, (course.turns actions).received session = course.received session ++ later ∧
      (later = [] ∨ ∃ count,
        later = notice.toList.map .displaced ++ List.replicate count .closed) := by
  induction actions generalizing course notice with
  | nil => exact ⟨[], (List.append_nil _).symm, Or.inl rfl⟩
  | cons action rest ih =>
      rcases moved_turn attended.faithful attended.inOrder given action with
        ⟨new, delivery, moved⟩
      have stillGiven := Nat.le_trans given (lastSession_le_turn attended.inOrder action)
      rcases moved.move.of_left left with ⟨rfl, left⟩ | ⟨first, rfl, left, rfl⟩
      · rcases ih (attended_turn attended action) stillGiven left with ⟨later, received, shape⟩
        refine ⟨later, ?_, shape⟩
        rw [moved.received, Option.toList_none, List.append_nil] at received
        exact received
      · rcases ih (attended_turn attended action) stillGiven left with ⟨later, received, shape⟩
        rw [moved.received, List.append_assoc] at received
        refine ⟨_, received, Or.inr ?_⟩
        have ended : ∃ count, later = List.replicate count .closed := by
          rcases shape with rfl | ⟨count, rfl⟩
          · exact ⟨0, rfl⟩
          · exact ⟨count, rfl⟩
        rcases ended with ⟨count, rfl⟩
        cases notice with
        | none => exact ⟨count + 1, rfl⟩
        | some notice => exact ⟨count, rfl⟩

/-! ## Notices -/

theorem notices_turn
    (inOrder : course.channel.reception.InOrder)
    (action : Action) :
    (course.turn action).channel.notices = course.channel.notices := by
  apply holds_turn fun after => after.channel.notices = course.channel.notices
  · rfl
  · cases action with
    | record now message =>
        exact congrArg Reception.notices (reception_record course.channel now message)
    | enter identity viewport address =>
        rw [step]
        split
        case h_1 session displaced after outcome =>
          have admission := admission_of_enter inOrder outcome
          show after.notices = course.channel.notices
          cases admission with
          | fresh => rfl
          | displacing => rfl
        case h_2 entry after outside outcome =>
          rw [enter_of_not_entered outcome outside]
    | remove session =>
        exact congrArg Reception.notices (reception_remove course.channel session)
    | closeMailbox session => rfl
    | receive session => rfl
    | closeIfIdle => exact congrArg Reception.notices (reception_closeIfIdle course.channel)
    | close => exact congrArg Reception.notices (reception_close course.channel)
    | snapshot instant => rfl
    | publish pick drawn renderMs =>
        cases picked : course.drawing[pick]? with
        | none => rw [step, picked]
        | some version =>
            rw [channel_step_publish picked]
            exact congrArg Reception.notices
              (reception_publish course.channel version drawn renderMs)

/-- A session was told of a displacement, or is to be told. -/
def Noticed (course : Course) (session : Nat) (notice : Stamped) : Prop :=
  session ≤ course.channel.lastSession ∧
    (.displaced notice ∈ course.received session ∨ (course.boxes session).notice = some notice)

/-- The viewer of a session is displaced: somebody of its identity comes from its address. -/
structure Displaces (course : Course) (action : Action) (session : Nat) (viewer : Viewer) :
    Prop where
  listed : course.channel.roster.viewer? session = some viewer
  unlisted : (course.turn action).channel.roster.viewer? session = none
  came : ∃ viewport, action = .enter viewer.identity viewport viewer.address

theorem noticed_turn
    (attended : course.Attended)
    {action : Action}
    {session : Nat}
    {notice : Stamped}
    (noticed : (course.turn action).Noticed session notice) :
    course.Noticed session notice ∨
      ∃ viewer, course.Displaces action session viewer ∧
        notice = .ofNotice (course.channel.notices.get viewer.viewport) := by
  rcases noticed with ⟨given, noticed⟩
  by_cases old : session ≤ course.channel.lastSession
  · rcases moved_turn attended.faithful attended.inOrder old action with ⟨new, delivery, moved⟩
    have now : .displaced notice ∈ course.received session ∨ delivery = some (.displaced notice) ∨
        ((course.turn action).boxes session).notice = some notice := by
      rw [moved.received, List.mem_append, Option.mem_toList] at noticed
      exact or_assoc.mp noticed
    rcases now with before | now
    · exact Or.inl ⟨old, Or.inl before⟩
    · rcases moved.move.noticed now with before | ⟨viewer, viewport, listed, gone, came, same⟩
      · exact Or.inl ⟨old, Or.inr before⟩
      · exact Or.inr ⟨viewer, ⟨listed, gone, viewport, came⟩, same⟩
  · -- A session that is given out now finds no notice.
    have unborn := Nat.not_le.mp old
    rw [received_turn_of_unborn unborn, attended.unborn session unborn] at noticed
    rcases turn_opens attended.inOrder action with none | ⟨_, _, _, opened⟩
    · exact absurd (none ▸ given) old
    · have next : session = course.channel.lastSession + 1 := by
        rw [opened.lastSession] at given
        omega
      subst next
      rcases noticed with impossible | waits
      · cases impossible
      · have box : (course.turn action).boxes (course.channel.lastSession + 1) = _ :=
          congrArg Standing.box opened.standing
        rw [box] at waits
        exact nomatch (firstBox_open _ _).2.symm.trans waits

/-- Who is told of a displacement was displaced, in one of the turns. -/
theorem noticed_turns
    (attended : course.Attended)
    {actions : List Action}
    {session : Nat}
    {notice : Stamped}
    (noticed : (course.turns actions).Noticed session notice) :
    course.Noticed session notice ∨
      ∃ before action rest viewer, actions = before ++ action :: rest ∧
        (course.turns before).Displaces action session viewer ∧
        notice = .ofNotice (course.channel.notices.get viewer.viewport) := by
  induction actions generalizing course with
  | nil => exact Or.inl noticed
  | cons action rest ih =>
      rcases ih (attended_turn attended action) noticed with
        noticed | ⟨before, later, rest, viewer, rfl, displaces, same⟩
      · rcases noticed_turn attended noticed with noticed | ⟨viewer, displaces, same⟩
        · exact Or.inl noticed
        · exact Or.inr ⟨[], action, rest, viewer, rfl, displaces, same⟩
      · rw [notices_turn attended.inOrder action] at same
        exact Or.inr ⟨action :: before, later, rest, viewer, rfl, displaces, same⟩

theorem displaces_of_delivered
    (attended : course.Attended)
    {session : Nat}
    (silent : ∀ notice, ¬ course.Noticed session notice)
    {actions : List Action}
    {notice : Frame}
    (told : .displaced notice ∈ (course.turns actions).delivered session) :
    ∃ before action rest viewer, actions = before ++ action :: rest ∧
      (course.turns before).Displaces action session viewer ∧
      notice = course.channel.notices.get viewer.viewport := by
  have after : (course.turns actions).Attended := attended_turns attended actions
  rw [after.faithful.delivered_eq] at told
  rcases List.mem_map.mp told with ⟨stamped | stamped | _, received, same⟩
  · cases same
  · cases same
    have given : session ≤ (course.turns actions).channel.lastSession := by
      by_contra unborn
      rw [after.unborn session (Nat.not_le.mp unborn)] at received
      cases received
    rcases noticed_turns attended ⟨given, Or.inl received⟩ with
      before | ⟨before, action, rest, viewer, split, displaces, rfl⟩
    · exact absurd before (silent stamped)
    · exact ⟨before, action, rest, viewer, split, displaces, rfl⟩
  · cases same

end Course

end FrameChat.Channel
