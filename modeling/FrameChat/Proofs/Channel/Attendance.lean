import FrameChat.Proofs.Channel.Turns

/-!
# Attendance

A session that was given out is watched by its viewer until it is taken off the
roster, and its mailbox goes along with that.  As long as the viewer is listed
the mailbox is closed only with the channel, and what waits in it is the frame
that is stored for the viewport of the viewer, if anything does.  What is closed
stays empty but for a notice.

`Course.Attended` says so of all sessions at once.  It follows every turn
(`attended_turn`), since each of the moves that a turn makes preserves it.
-/

namespace FrameChat.Channel

namespace Standing

structure Sound (standing : Standing) : Prop where
  emptied : standing.box.closed = true → standing.box.waiting = []
  silent : standing.box.closed = false → standing.box.notice = none
  listed : ∀ viewer, standing.viewer = some viewer →
    standing.box.closed = standing.closed ∧ standing.box.notice = none

/-- A listed viewer is to see what is cached for its viewport, or nothing. -/
def Shows (standing : Standing) (cached : Viewport → Option Stamped) : Prop :=
  ∀ viewer, standing.viewer = some viewer →
    standing.box.waiting = [] ∨
      ∃ stamped, cached viewer.viewport = some stamped ∧ standing.box.waiting = [stamped]

/-! ## Mailboxes -/

theorem offer_of_closed {α : Type} {box : Mailbox α} (closed : box.closed = true) (frame : α) :
    (box.offer frame).2 = box := by
  rw [Mailbox.offer, if_pos closed]

/-- An open mailbox holds the frame that is offered, or nothing if it has no room. -/
theorem offer_of_open {α : Type} {box : Mailbox α} (isOpen : box.closed = false) (frame : α) :
    (box.offer frame).2.closed = false ∧ (box.offer frame).2.notice = box.notice ∧
      ((box.offer frame).2.waiting = [] ∨ (box.offer frame).2.waiting = [frame]) := by
  rcases box with ⟨capacity, waiting, notice, closed⟩
  cases isOpen
  by_cases full : capacity = 0
  · simp [Mailbox.offer, full]
  · simp [Mailbox.offer, full]

theorem receive_of_silent {α : Type} {box : Mailbox α} (silent : box.notice = none) :
    box.receive.2.notice = none ∧ box.receive.2.waiting = box.waiting.tail := by
  rcases box with ⟨capacity, waiting, notice, closed⟩
  cases silent
  cases waiting with
  | nil => exact ⟨rfl, rfl⟩
  | cons frame rest => exact ⟨rfl, rfl⟩

/-- A frame that is delivered was the first that waited, and no notice was to come before it. -/
theorem receive_of_frame
    {box : Mailbox Stamped}
    {stamped : Stamped}
    (delivered : box.receive.1 = some (.frame stamped)) :
    box.notice = none ∧ ∃ rest, box.waiting = stamped :: rest := by
  rcases box with ⟨capacity, waiting, notice, closed⟩
  cases notice with
  | some notice => cases delivered
  | none =>
      cases waiting with
      | nil => cases closed <;> cases delivered
      | cons frame rest =>
          cases delivered
          exact ⟨rfl, rest, rfl⟩

/-! ## Moves -/

section Moves

variable {notices : PerViewport Frame} {action : Action} {new : Viewport → Option Stamped}
  {before after : Standing} {delivery : Option (Delivery Stamped)}

theorem Move.sound
    (move : Move notices action new before delivery after)
    (sound : before.Sound) :
    after.Sound := by
  cases move with
  | stay _ => exact sound
  | @offered viewer box closed stamped drawn =>
      rcases sound.listed viewer rfl with ⟨alike, silent⟩
      cases shut : box.closed with
      | true =>
          rw [offer_of_closed shut]
          exact sound
      | false =>
          rcases offer_of_open shut stamped with ⟨isOpen, notice, -⟩
          constructor
          · intro closed
            rw [isOpen] at closed
            cases closed
          · intro _
            exact notice.trans silent
          · intro listed _
            exact ⟨isOpen.trans (shut.symm.trans alike), notice.trans silent⟩
  | displaced _ => exact ⟨fun _ => rfl, nofun, nofun⟩
  | left => exact ⟨sound.emptied, sound.silent, nofun⟩
  | shut => exact ⟨fun _ => rfl, nofun, nofun⟩
  | @ended viewer box closed =>
      cases viewer with
      | none => exact ⟨sound.emptied, sound.silent, nofun⟩
      | some viewer =>
          exact ⟨fun _ => rfl, nofun, fun _ _ => ⟨rfl, (sound.listed viewer rfl).2⟩⟩
  | @received viewer box closed undrawn allowed =>
      rcases Course.waiting_receive box with ⟨moved, stillClosed⟩
      constructor
      · intro shut
        have nothing := sound.emptied (stillClosed.symm.trans shut)
        rw [nothing] at moved
        exact (List.append_eq_nil_iff.mp moved).2
      · intro isOpen
        exact (receive_of_silent (sound.silent (stillClosed.symm.trans isOpen))).1
      · intro listed present
        rcases sound.listed listed present with ⟨alike, silent⟩
        exact ⟨stillClosed.trans alike, (receive_of_silent silent).1⟩

/-- What waits for a listed viewer follows what is stored. -/
theorem Move.shows
    (move : Move notices action new before delivery after)
    (sound : before.Sound)
    {cached : Viewport → Option Stamped}
    (shows : before.Shows cached) :
    after.Shows fun viewport => (new viewport).or (cached viewport) := by
  cases move with
  | stay undrawn =>
      intro viewer present
      show _ ∨ ∃ shown, (new viewer.viewport).or (cached viewer.viewport) = some shown ∧ _
      rw [undrawn viewer present, Option.none_or]
      exact shows viewer present
  | @offered viewer box closed stamped drawn =>
      rintro _ ⟨rfl⟩
      show (box.offer stamped).2.waiting = [] ∨ _
      cases shut : box.closed with
      | true =>
          rw [offer_of_closed shut]
          exact Or.inl (sound.emptied shut)
      | false =>
          rcases (offer_of_open shut stamped).2.2 with none | one
          · exact Or.inl none
          · refine Or.inr ⟨stamped, ?_, one⟩
            show (new viewer.viewport).or (cached viewer.viewport) = some stamped
            rw [drawn, Option.some_or]
  | displaced _ => exact nofun
  | left => exact nofun
  | shut => exact nofun
  | @ended viewer box closed =>
      intro listed present
      cases present
      exact Or.inl rfl
  | @received viewer box closed undrawn allowed =>
      intro listed present
      have rest := (receive_of_silent (sound.listed listed present).2).2
      rcases shows listed present with nothing | ⟨stamped, -, one⟩
      · replace nothing : box.waiting = [] := nothing
        rw [nothing] at rest
        exact Or.inl rest
      · replace one : box.waiting = [stamped] := one
        rw [one] at rest
        exact Or.inl rest

/-- Nobody comes back, and nobody changes. -/
theorem Move.viewer (move : Move notices action new before delivery after) :
    after.viewer = before.viewer ∨ after.viewer = none := by
  cases move with
  | stay _ => exact Or.inl rfl
  | offered _ => exact Or.inl rfl
  | displaced _ => exact Or.inr rfl
  | left => exact Or.inr rfl
  | shut => exact Or.inl rfl
  | ended => exact Or.inl rfl
  | received _ _ => exact Or.inl rfl

/-- What is delivered or waits was there before, or is a frame that was just stored. -/
theorem Move.seen (move : Move notices action new before delivery after) :
    ((delivery.bind Delivery.frame?).toList ++ after.box.waiting).Sublist before.box.waiting ∨
      ∃ viewer stamped, before.viewer = some viewer ∧ new viewer.viewport = some stamped ∧
        delivery = none ∧ after.box.waiting = [stamped] := by
  cases move with
  | stay _ => exact Or.inl (List.Sublist.refl _)
  | @offered viewer box closed stamped drawn =>
      cases shut : box.closed with
      | true =>
          rw [offer_of_closed shut]
          exact Or.inl (List.Sublist.refl _)
      | false =>
          rcases (offer_of_open shut stamped).2.2 with none | one
          · refine Or.inl ?_
            show (box.offer stamped).2.waiting.Sublist _
            rw [none]
            exact List.nil_sublist _
          · exact Or.inr ⟨viewer, stamped, rfl, drawn, rfl, one⟩
  | displaced _ => exact Or.inl (List.nil_sublist _)
  | left => exact Or.inl (List.Sublist.refl _)
  | shut => exact Or.inl (List.nil_sublist _)
  | @ended viewer box closed =>
      cases viewer with
      | none => exact Or.inl (List.Sublist.refl _)
      | some viewer => exact Or.inl (List.nil_sublist _)
  | @received viewer box closed undrawn allowed =>
      refine Or.inl ?_
      show ((box.receive.1.bind Delivery.frame?).toList ++ box.receive.2.waiting).Sublist _
      rw [(Course.waiting_receive box).1]

/-- A frame is delivered only to a listed viewer of an open channel, and it is the one that is cached. -/
theorem Move.delivers
    {stamped : Stamped}
    (move : Move notices action new before (some (.frame stamped)) after)
    (sound : before.Sound)
    {cached : Viewport → Option Stamped}
    (shows : before.Shows cached) :
    before.closed = false ∧
      ∃ viewer, before.viewer = some viewer ∧ cached viewer.viewport = some stamped := by
  generalize delivered : some (Delivery.frame stamped) = delivery at move
  cases move with
  | stay _ => cases delivered
  | offered _ => cases delivered
  | displaced _ => cases delivered
  | left => cases delivered
  | shut => cases delivered
  | ended => cases delivered
  | @received viewer box closed undrawn allowed =>
      rcases receive_of_frame delivered.symm with ⟨-, rest, first⟩
      have isOpen : box.closed = false := by
        cases shut : box.closed with
        | false => rfl
        | true =>
            have nothing : box.waiting = [] := sound.emptied shut
            rw [first] at nothing
            cases nothing
      cases viewer with
      | none =>
          rw [isOpen] at allowed
          cases allowed
      | some viewer =>
          refine ⟨(sound.listed viewer rfl).1.symm.trans isOpen, viewer, rfl, ?_⟩
          rcases shows viewer rfl with nothing | ⟨shown, isCached, one⟩
          · replace nothing : box.waiting = [] := nothing
            rw [first] at nothing
            cases nothing
          · replace one : box.waiting = [shown] := one
            rw [first] at one
            cases one
            exact isCached

end Moves

end Standing

/-! ## Courses -/

namespace Course

structure Attended (course : Course) : Prop where
  faithful : course.Faithful
  ordered : course.Ordered
  inOrder : course.channel.reception.InOrder
  sound : ∀ session ≤ course.channel.lastSession, (course.standing session).Sound
  shows : ∀ session ≤ course.channel.lastSession, (course.standing session).Shows course.cached
  unborn : ∀ session, course.channel.lastSession < session → course.received session = []

variable {course : Course}

theorem Moved.cached
    {action : Action}
    {session : Nat}
    {new : Viewport → Option Stamped}
    {delivery : Option (Delivery Stamped)}
    {after : Course}
    (moved : Moved action session new delivery course after) :
    after.cached = fun viewport => (new viewport).or (course.cached viewport) := by
  funext viewport
  rw [Course.cached, moved.stored, List.getLast?_append, Course.cached]
  cases new viewport <;> rfl

theorem taken_eq_received (course : Course) (session : Nat) :
    course.taken session = (course.received session).filterMap Delivery.frame? := by
  rw [taken, received, List.filterMap_filterMap]
  congr 1
  funext entry
  split <;> rfl

theorem Moved.taken
    {action : Action}
    {session : Nat}
    {new : Viewport → Option Stamped}
    {delivery : Option (Delivery Stamped)}
    {after : Course}
    (moved : Moved action session new delivery course after) :
    after.taken session = course.taken session ++ (delivery.bind Delivery.frame?).toList := by
  rw [taken_eq_received, moved.received, List.filterMap_append, ← taken_eq_received]
  congr 1
  cases delivery with
  | none => rfl
  | some delivery => cases delivery <;> rfl

theorem firstBox_open (capacity : Nat) (cached : Option Stamped) :
    (firstBox capacity cached).closed = false ∧ (firstBox capacity cached).notice = none := by
  cases cached with
  | none => exact ⟨rfl, rfl⟩
  | some stamped =>
      have offered := @Standing.offer_of_open _ (Mailbox.empty capacity) rfl stamped
      exact ⟨offered.1, offered.2.1⟩

theorem sound_firstBox
    (capacity : Nat)
    (cached : Option Stamped)
    (viewer : Viewer) :
    Standing.Sound ⟨some viewer, firstBox capacity cached, false⟩ := by
  rcases firstBox_open capacity cached with ⟨isOpen, silent⟩
  constructor
  · intro closed
    rw [isOpen] at closed
    cases closed
  · intro _
    exact silent
  · intro _ _
    exact ⟨isOpen, silent⟩

theorem shows_firstBox
    (capacity : Nat)
    (cached : Viewport → Option Stamped)
    (viewer : Viewer) :
    Standing.Shows ⟨some viewer, firstBox capacity (cached viewer.viewport), false⟩ cached := by
  rintro _ ⟨rfl⟩
  show (firstBox capacity (cached viewer.viewport)).waiting = [] ∨ _
  cases found : cached viewer.viewport with
  | none => exact Or.inl rfl
  | some stamped =>
      rcases (@Standing.offer_of_open _ (Mailbox.empty capacity) rfl stamped).2.2 with
        nothing | one
      · exact Or.inl nothing
      · exact Or.inr ⟨stamped, rfl, one⟩

theorem attended_start
    (name : String)
    (settings : Settings)
    (history : List Message)
    (active : Seconds)
    (counter : UInt64)
    (notices : PerViewport Frame)
    (instant : Nat) :
    (start name settings history active counter notices instant).Attended where
  faithful := faithful_start ..
  ordered := ordered_start ..
  inOrder := Reception.inOrder_start notices
  sound := fun _ _ => ⟨fun _ => rfl, nofun, nofun⟩
  shows := fun _ _ => nofun
  unborn := fun _ _ => rfl

theorem lastSession_le_turn
    (inOrder : course.channel.reception.InOrder)
    (action : Action) :
    course.channel.lastSession ≤ (course.turn action).channel.lastSession := by
  rcases turn_opens inOrder action with same | ⟨_, _, _, opened⟩
  · exact Nat.le_of_eq same.symm
  · rw [opened.lastSession]
    exact Nat.le_succ _

theorem attended_turn (attended : course.Attended) (action : Action) :
    (course.turn action).Attended := by
  have moved (session : Nat) (given : session ≤ course.channel.lastSession) :=
    moved_turn attended.faithful attended.inOrder given action
  have sound (session : Nat) (given : session ≤ course.channel.lastSession) :
      ((course.turn action).standing session).Sound := by
    rcases moved session given with ⟨new, delivery, moved⟩
    exact moved.move.sound (attended.sound session given)
  have shows (session : Nat) (given : session ≤ course.channel.lastSession) :
      ((course.turn action).standing session).Shows (course.turn action).cached := by
    rcases moved session given with ⟨new, delivery, moved⟩
    rw [moved.cached]
    exact moved.move.shows (attended.sound session given) (attended.shows session given)
  have opens := turn_opens attended.inOrder action
  -- The sessions that were given out move; one that is given out now begins.
  have split (session : Nat) (given : session ≤ (course.turn action).channel.lastSession) :
      session ≤ course.channel.lastSession ∨
        session = course.channel.lastSession + 1 ∧
          ∃ identity viewport address,
            Opened identity viewport address course (course.turn action) := by
    rcases opens with none | ⟨identity, viewport, address, opened⟩
    · exact Or.inl (none ▸ given)
    · rw [opened.lastSession] at given
      rcases Nat.le_succ_iff.mp given with old | new
      · exact Or.inl old
      · exact Or.inr ⟨new, identity, viewport, address, opened⟩
  constructor
  case faithful =>
    exact holds_turn Faithful attended.faithful (faithful_step attended.faithful action)
  case ordered =>
    exact holds_turn Ordered attended.ordered (ordered_step attended.ordered action)
  case inOrder =>
    exact holds_turn (fun course => course.channel.reception.InOrder) attended.inOrder
      (inOrder_step attended.inOrder action)
  case sound =>
    intro session given
    rcases split session given with old | ⟨rfl, identity, viewport, address, opened⟩
    · exact sound session old
    · rw [opened.standing]
      exact sound_firstBox _ _ _
  case shows =>
    intro session given
    rcases split session given with old | ⟨rfl, identity, viewport, address, opened⟩
    · exact shows session old
    · have cached : (course.turn action).cached = course.cached := by
        funext other
        rw [Course.cached, stored, opened.publications, Course.cached, stored]
      rw [opened.standing, cached]
      exact shows_firstBox _ course.cached ⟨_, identity, viewport, address⟩
  case unborn =>
    intro session unborn
    have before : course.channel.lastSession < session := by
      rcases opens with none | ⟨_, _, _, opened⟩
      · exact none ▸ unborn
      · have next := opened.lastSession
        omega
    rw [received_turn_of_unborn before]
    exact attended.unborn session before

theorem attended_turns (attended : course.Attended) (actions : List Action) :
    (course.turns actions).Attended := by
  induction actions generalizing course with
  | nil => exact attended
  | cons action rest ih => exact ih (attended_turn attended action)

/-- What every turn of an attended course preserves holds after any turns. -/
theorem Attended.holds_turns
    (attended : course.Attended)
    (holds : Course → Prop)
    (begins : holds course)
    (turns : ∀ course : Course, course.Attended → holds course → ∀ action,
      holds (course.turn action))
    (actions : List Action) :
    holds (course.turns actions) := by
  induction actions generalizing course with
  | nil => exact begins
  | cons action rest ih =>
      exact ih (attended_turn attended action) (turns course attended begins action)

theorem lastSession_le_turns (attended : course.Attended) (actions : List Action) :
    course.channel.lastSession ≤ (course.turns actions).channel.lastSession := by
  refine attended.holds_turns (fun after =>
    course.channel.lastSession ≤ after.channel.lastSession) (Nat.le_refl _) ?_ actions
  intro after attended notBelow action
  exact Nat.le_trans notBelow (lastSession_le_turn attended.inOrder action)

end Course

end FrameChat.Channel
