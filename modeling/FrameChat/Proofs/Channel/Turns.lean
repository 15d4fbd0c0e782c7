import FrameChat.Proofs.Channel.Reception
import FrameChat.Proofs.Channel.Versions

/-!
# Turns

Not every action can be taken at every moment.  The mailbox of a single session
is closed by a leave, which took the session off the roster before.  Deliveries
are taken by those to whom a session was given out, and not while their leave is
under way: it is the viewer's own connection that leaves, after the last delivery
that it takes.  All else may happen at any time (`permits`).

Seen from one session that was given out, a turn does one of few things:
`Standing.Move` lists them, and `moved_turn` says that there are no others.  What
is said of mailboxes and deliveries in any course is read off this list.
-/

namespace FrameChat.Channel

/-- Whether somebody may take an action now. -/
def permits (channel : Channel) : Action → Bool
  | .closeMailbox session =>
      session ≤ channel.lastSession && (channel.roster.viewer? session).isNone
  | .receive session =>
      session ≤ channel.lastSession &&
        ((channel.roster.viewer? session).isSome || (channel.mailbox session).closed)
  | _ => true

/-- How a session stands: its viewer if that is listed, its mailbox, and whether the channel is closed. -/
structure Standing where
  viewer : Option Viewer
  box : Mailbox Stamped
  closed : Bool

/-- What an action does to a session, the frames stored by it, and what it delivers to the session. -/
inductive Standing.Move
    (notices : PerViewport Frame)
    (action : Action)
    (new : Viewport → Option Stamped) :
    Standing → Option (Delivery Stamped) → Standing → Prop where
  | stay {standing : Standing} :
      (∀ viewer, standing.viewer = some viewer → new viewer.viewport = none) →
        Move notices action new standing none standing
  | offered {viewer : Viewer} {box : Mailbox Stamped} {closed : Bool} {stamped : Stamped} :
      new viewer.viewport = some stamped →
        Move notices action new ⟨some viewer, box, closed⟩ none
          ⟨some viewer, (box.offer stamped).2, closed⟩
  | displaced {viewer : Viewer} {box : Mailbox Stamped} {viewport : Viewport} :
      action = .enter viewer.identity viewport viewer.address →
        Move notices action new ⟨some viewer, box, false⟩ none
          ⟨none, box.displace (.ofNotice (notices.get viewer.viewport)), false⟩
  | left {viewer : Viewer} {box : Mailbox Stamped} {closed : Bool} :
      Move notices action new ⟨some viewer, box, closed⟩ none ⟨none, box, closed⟩
  | shut {box : Mailbox Stamped} {closed : Bool} :
      Move notices action new ⟨none, box, closed⟩ none ⟨none, box.close, closed⟩
  | ended {viewer : Option Viewer} {box : Mailbox Stamped} {closed : Bool} :
      Move notices action new ⟨viewer, box, closed⟩ none
        ⟨viewer, if viewer.isSome then box.close else box, true⟩
  | received {viewer : Option Viewer} {box : Mailbox Stamped} {closed : Bool} :
      (∀ listed, viewer = some listed → new listed.viewport = none) →
        (viewer.isSome || box.closed) = true →
        Move notices action new ⟨viewer, box, closed⟩ box.receive.1
          ⟨viewer, box.receive.2, closed⟩

/-! ## Treating mailboxes in turn -/

theorem Boxes.foldl_update_apply
    {act : Mailbox Stamped → Mailbox Stamped}
    (again : ∀ box, act (act box) = act box)
    (sessions : List Nat)
    (boxes : Boxes)
    (session : Nat) :
    sessions.foldl (fun boxes other => Function.update boxes other (act (boxes other))) boxes
        session =
      if session ∈ sessions then act (boxes session) else boxes session := by
  -- A session may be listed more than once, so that its mailbox is treated again.
  induction sessions generalizing boxes with
  | nil => rfl
  | cons other rest ih =>
      rw [List.foldl_cons, ih, Function.update_apply]
      by_cases same : session = other
      · subst same
        simp [again]
      · simp [same]

theorem Mailbox.offer_offer {α : Type} (mailbox : Mailbox α) (frame : α) :
    ((mailbox.offer frame).2.offer frame).2 = (mailbox.offer frame).2 := by
  rcases mailbox with ⟨capacity, waiting, notice, closed⟩
  cases closed with
  | true => rfl
  | false =>
      by_cases full : capacity = 0
      · simp [Mailbox.offer, full]
      · simp [Mailbox.offer, full]

theorem Boxes.close_apply (boxes : Boxes) (sessions : List Nat) (session : Nat) :
    boxes.close sessions session =
      if session ∈ sessions then (boxes session).close else boxes session :=
  @foldl_update_apply Mailbox.close (fun _ => rfl) sessions boxes session

theorem Reception.InOrder.mem_sessionsIn
    {channel : Channel}
    (inOrder : channel.reception.InOrder)
    {viewport : Viewport}
    {session : Nat} :
    session ∈ channel.sessionsIn viewport ↔
      ∃ viewer, channel.roster.viewer? session = some viewer ∧ viewer.viewport = viewport := by
  rw [sessionsIn, List.mem_map]
  constructor
  · rintro ⟨viewer, member, rfl⟩
    rcases List.mem_filter.mp member with ⟨listed, shown⟩
    exact ⟨viewer, inOrder.exact.mem_viewers.mp listed, by simpa using shown⟩
  · rintro ⟨viewer, found, shown⟩
    have own := inOrder.exact.own session viewer found
    have listed : viewer ∈ channel.roster.viewers :=
      inOrder.exact.mem_viewers.mpr (own.symm ▸ found)
    exact ⟨viewer, List.mem_filter.mpr ⟨listed, by simpa using shown⟩, own⟩

section Publishing

variable {channel : Channel} {boxes : Boxes} {publication : Publication} {viewport : Viewport}
  {session : Nat} {viewer : Viewer}

theorem Boxes.publish_of_unwatched (unwatched : session ∉ channel.sessionsIn viewport) :
    boxes.publish channel publication viewport session = boxes session := by
  rw [Boxes.publish]
  cases publication.stamped? viewport with
  | none => rfl
  | some stamped =>
      have applied := @Boxes.foldl_update_apply (fun box => (box.offer stamped).2)
        (fun box => Mailbox.offer_offer box stamped) (channel.sessionsIn viewport) boxes session
      exact applied.trans (if_neg unwatched)

theorem Boxes.publish_of_watched
    {stamped : Stamped}
    (watched : session ∈ channel.sessionsIn viewport)
    (drawn : publication.stamped? viewport = some stamped) :
    boxes.publish channel publication viewport session = ((boxes session).offer stamped).2 := by
  rw [Boxes.publish, drawn]
  have applied := @Boxes.foldl_update_apply (fun box => (box.offer stamped).2)
    (fun box => Mailbox.offer_offer box stamped) (channel.sessionsIn viewport) boxes session
  exact applied.trans (if_pos watched)

theorem Boxes.publish_of_undrawn (undrawn : publication.stamped? viewport = none) :
    boxes.publish channel publication viewport session = boxes session := by
  rw [Boxes.publish, undrawn]

/-- Of a publication, a viewer is offered the frame for its own viewport. -/
theorem Boxes.publish_publish_of_listed
    (inOrder : channel.reception.InOrder)
    (found : channel.roster.viewer? session = some viewer) :
    (boxes.publish channel publication .narrow).publish channel publication .wide session =
      boxes.publish channel publication viewer.viewport session := by
  have elsewhere {other : Viewport} (differ : viewer.viewport ≠ other) :
      session ∉ channel.sessionsIn other := by
    intro watched
    rcases inOrder.mem_sessionsIn.mp watched with ⟨same, here, shown⟩
    rw [found] at here
    cases here
    exact differ shown
  cases shown : viewer.viewport with
  | narrow => exact Boxes.publish_of_unwatched (elsewhere (by simp [shown]))
  | wide =>
      have unchanged : boxes.publish channel publication .narrow session = boxes session :=
        Boxes.publish_of_unwatched (elsewhere (by simp [shown]))
      have watched : session ∈ channel.sessionsIn .wide :=
        inOrder.mem_sessionsIn.mpr ⟨viewer, found, shown⟩
      cases drawn : publication.stamped? .wide with
      | none => rw [Boxes.publish_of_undrawn drawn, Boxes.publish_of_undrawn drawn, unchanged]
      | some stamped =>
          rw [Boxes.publish_of_watched watched drawn, Boxes.publish_of_watched watched drawn,
            unchanged]

theorem Boxes.publish_publish_of_unlisted
    (inOrder : channel.reception.InOrder)
    (unlisted : channel.roster.viewer? session = none) :
    (boxes.publish channel publication .narrow).publish channel publication .wide session =
      boxes session := by
  have unwatched (viewport : Viewport) : session ∉ channel.sessionsIn viewport := by
    intro watched
    rcases inOrder.mem_sessionsIn.mp watched with ⟨viewer, found, -⟩
    rw [unlisted] at found
    cases found
  rw [Boxes.publish_of_unwatched (unwatched .wide), Boxes.publish_of_unwatched (unwatched .narrow)]

end Publishing

/-! ## One turn -/

namespace Course

def turn (course : Course) (action : Action) : Course :=
  if course.channel.permits action then course.step action else course

def turns (course : Course) (actions : List Action) : Course :=
  actions.foldl turn course

@[simp]
theorem turns_append (course : Course) (first second : List Action) :
    course.turns (first ++ second) = (course.turns first).turns second :=
  List.foldl_append

/-- What holds before an action and after it holds after the turn. -/
theorem holds_turn
    {course : Course}
    (holds : Course → Prop)
    {action : Action}
    (before : holds course)
    (after : holds (course.step action)) :
    holds (course.turn action) := by
  rw [turn]
  split
  · exact after
  · exact before

/-- What holds of all courses holds when it goes by turns. -/
theorem exists_run_of_turns (course : Course) (actions : List Action) :
    ∃ taken, course.turns actions = course.run taken := by
  induction actions generalizing course with
  | nil => exact ⟨[], rfl⟩
  | cons action rest ih =>
      rcases ih (course.turn action) with ⟨taken, same⟩
      by_cases permitted : course.channel.permits action = true
      · have stepped : course.turn action = course.step action := if_pos permitted
        rw [stepped] at same
        refine ⟨action :: taken, ?_⟩
        show (course.turn action).turns rest = (course.step action).run taken
        rw [stepped, same]
      · have stayed : course.turn action = course := if_neg permitted
        rw [stayed] at same
        refine ⟨taken, ?_⟩
        show (course.turn action).turns rest = course.run taken
        rw [stayed, same]

/-- What was delivered to a session. -/
def received (course : Course) (session : Nat) : List (Delivery Stamped) :=
  course.stamped.filterMap fun entry => if entry.1 = session then some entry.2 else none

/-- What a session received of the channel. -/
def delivered (course : Course) (session : Nat) : List (Delivery Frame) :=
  course.deliveries.filterMap fun entry => if entry.1 = session then some entry.2 else none

def standing (course : Course) (session : Nat) : Standing :=
  ⟨course.channel.roster.viewer? session, course.boxes session, course.channel.closed⟩

variable {course : Course}

theorem Faithful.delivered_eq (faithful : course.Faithful) (session : Nat) :
    course.delivered session = (course.received session).map (Delivery.map Stamped.frame) := by
  rw [delivered, faithful.deliveries, received, List.filterMap_map, List.map_filterMap]
  congr 1
  funext entry
  by_cases same : entry.1 = session
  · simp [same]
  · simp [same]

theorem standing_eq
    {after : Course}
    {session : Nat}
    (viewer : after.channel.roster.viewer? session = course.channel.roster.viewer? session)
    (box : after.boxes session = course.boxes session)
    (closed : after.channel.closed = course.channel.closed) :
    after.standing session = course.standing session := by
  rw [standing, viewer, box, closed, standing]

theorem received_step_receive (session other : Nat) :
    (course.step (.receive session)).received other =
      course.received other ++
        if session = other then (course.boxes session).receive.1.toList else [] := by
  show List.filterMap _ (course.stamped ++
    ((course.boxes session).receive.1.map (session, ·)).toList) = _
  rw [List.filterMap_append]
  congr 1
  cases (course.boxes session).receive.1 with
  | none => simp
  | some delivery =>
      by_cases same : session = other
      · simp [same]
      · simp [same]

/-- What was stored and delivered when a session went from one standing to the next. -/
structure Moved
    (action : Action)
    (session : Nat)
    (new : Viewport → Option Stamped)
    (delivery : Option (Delivery Stamped))
    (before after : Course) :
    Prop where
  move : Standing.Move before.channel.notices action new (before.standing session) delivery
    (after.standing session)
  stored : ∀ viewport, after.stored viewport = before.stored viewport ++ (new viewport).toList
  received : after.received session = before.received session ++ delivery.toList

/-- A step that publishes and delivers nothing. -/
theorem Moved.of_move
    {action : Action}
    {session : Nat}
    {after : Course}
    (move : Standing.Move course.channel.notices action (fun _ => none) (course.standing session)
      none (after.standing session))
    (publications : after.publications = course.publications)
    (stamped : after.stamped = course.stamped) :
    Moved action session (fun _ => none) none course after := by
  refine ⟨move, fun viewport => ?_, ?_⟩
  · rw [Course.stored, publications, Course.stored, Option.toList_none, List.append_nil]
  · rw [Course.received, stamped, Course.received, Option.toList_none, List.append_nil]

theorem Moved.stay
    {action : Action}
    {session : Nat}
    {after : Course}
    (standing : after.standing session = course.standing session)
    (publications : after.publications = course.publications)
    (stamped : after.stamped = course.stamped) :
    Moved action session (fun _ => none) none course after := by
  apply Moved.of_move
  · rw [standing]
    exact .stay fun _ _ => rfl
  · exact publications
  · exact stamped

theorem moved_record (now : Seconds) (message : Message) (session : Nat) :
    Moved (.record now message) session (fun _ => none) none course
      (course.step (.record now message)) := by
  have roster : (course.channel.record now message).2.roster = course.channel.roster :=
    congrArg Reception.roster (reception_record course.channel now message)
  have closed : (course.channel.record now message).2.closed = course.channel.closed := by
    rw [record]
    split <;> rfl
  apply Moved.stay
  · exact standing_eq (congrArg (Roster.viewer? · session) roster) rfl closed
  · rfl
  · rfl

/-- Who comes from the address of its own session displaces that, and no other. -/
theorem standing_displacing
    (inOrder : course.channel.reception.InOrder)
    (isOpen : course.channel.closed = false)
    {identity : String}
    {address : Net.Address}
    {viewer : Viewer}
    (alone : course.channel.roster.ofIdentity identity = [viewer])
    (here : viewer.address = address)
    (viewport : Viewport)
    {session : Nat}
    (given : session ≤ course.channel.lastSession) :
    (course.step (.enter identity viewport address)).standing session =
      if session = viewer.session then
        ⟨none, (course.boxes session).displace
          (.ofNotice (course.channel.notices.get viewer.viewport)), false⟩
      else course.standing session := by
  have old : session ≠ course.channel.lastSession + 1 := by omega
  have box : course.boxes.enter course.channel (course.channel.lastSession + 1) identity
      (course.cached viewport) session =
        Function.update course.boxes viewer.session ((course.boxes viewer.session).displace
          (.ofNotice (course.channel.notices.get viewer.viewport))) session := by
    rw [Boxes.enter, Function.update_of_ne old, alone]
    rfl
  have listed : ((course.channel.displace viewer).openSession identity viewport
      address).2.roster.viewer? session =
        if session = viewer.session then none else course.channel.roster.viewer? session := by
    have dismissed := inOrder.dismiss viewer.session
    refine (dismissed.viewer?_welcome identity viewport address session).trans ?_
    refine (if_neg old).trans ?_
    exact Roster.viewer?_unregister course.channel.roster viewer.session session
  rw [step, enter_displacing isOpen alone here]
  show Standing.mk _ (course.boxes.enter _ _ _ _ _) course.channel.closed = _
  rw [listed, box, Function.update_apply]
  by_cases mine : session = viewer.session
  · rw [if_pos mine, if_pos mine, if_pos mine, mine, isOpen]
  · rw [if_neg mine, if_neg mine, if_neg mine]
    rfl

theorem moved_enter
    (inOrder : course.channel.reception.InOrder)
    (identity : String)
    (viewport : Viewport)
    (address : Net.Address)
    {session : Nat}
    (given : session ≤ course.channel.lastSession) :
    Moved (.enter identity viewport address) session (fun _ => none) none course
      (course.step (.enter identity viewport address)) := by
  have publications :
      (course.step (.enter identity viewport address)).publications = course.publications := by
    rw [step]
    split <;> rfl
  have stamped : (course.step (.enter identity viewport address)).stamped = course.stamped := by
    rw [step]
    split <;> rfl
  cases outcome : course.channel.enter identity viewport address with
  | mk entry after =>
      cases admission_of_enter inOrder outcome with
      | closed _ =>
          apply Moved.stay _ publications stamped
          rw [step, outcome]
      | rejected _ _ _ =>
          apply Moved.stay _ publications stamped
          rw [step, outcome]
      | fresh isOpen none =>
          have old : session ≠ course.channel.lastSession + 1 := by omega
          apply Moved.stay _ publications stamped
          rw [step, outcome]
          apply standing_eq
          · exact (inOrder.viewer?_welcome identity viewport address session).trans (if_neg old)
          · show course.boxes.enter _ _ _ _ session = _
            rw [Boxes.enter, Function.update_of_ne old, none]
            rfl
          · rfl
      | @displacing viewer isOpen alone here =>
          have standing := standing_displacing inOrder isOpen alone here viewport given
          by_cases mine : session = viewer.session
          · rcases inOrder.ofIdentity_mem alone with ⟨found, same⟩
            have before : course.standing session =
                ⟨some viewer, course.boxes session, false⟩ := by
              rw [Course.standing, isOpen, mine]
              exact congrArg (Standing.mk · _ _) found
            refine Moved.of_move ?_ publications stamped
            rw [standing, if_pos mine, before]
            exact .displaced (by rw [same, here])
          · exact Moved.stay (standing.trans (if_neg mine)) publications stamped

theorem moved_remove (removed session : Nat) :
    Moved (.remove removed) session (fun _ => none) none course
      (course.step (.remove removed)) := by
  have listed : (course.step (.remove removed)).channel.roster.viewer? session =
      if session = removed then none else course.channel.roster.viewer? session := by
    have roster := congrArg Reception.roster (reception_remove course.channel removed)
    refine (congrArg (Roster.viewer? · session) roster).trans ?_
    exact Roster.viewer?_unregister course.channel.roster removed session
  have closed : (course.step (.remove removed)).channel.closed = course.channel.closed :=
    congrArg Ledger.closed (ledger_remove course.channel removed)
  by_cases mine : session = removed
  · rw [if_pos mine] at listed
    cases found : course.channel.roster.viewer? session with
    | none => exact .stay (standing_eq (listed.trans found.symm) rfl closed) rfl rfl
    | some viewer =>
        apply Moved.of_move
        · rw [standing, standing, listed, found, closed]
          exact .left
        · rfl
        · rfl
  · rw [if_neg mine] at listed
    exact .stay (standing_eq listed rfl closed) rfl rfl

theorem moved_closeMailbox {shut : Nat} (session : Nat)
    (unlisted : course.channel.roster.viewer? shut = none) :
    Moved (.closeMailbox shut) session (fun _ => none) none course
      (course.step (.closeMailbox shut)) := by
  have box : (course.step (.closeMailbox shut)).boxes session =
      if session ∈ [shut] then (course.boxes session).close else course.boxes session :=
    course.boxes.close_apply [shut] session
  by_cases mine : session = shut
  · subst mine
    rw [if_pos (List.mem_singleton_self session)] at box
    apply Moved.of_move
    · rw [standing, standing, box]
      show Standing.Move _ _ _ _ _ ⟨course.channel.roster.viewer? session, _, _⟩
      rw [unlisted]
      exact .shut
    · rfl
    · rfl
  · rw [if_neg (by simpa using mine)] at box
    exact .stay (standing_eq rfl box rfl) rfl rfl

theorem moved_receive {reader : Nat} (session : Nat)
    (allowed : ((course.channel.roster.viewer? reader).isSome ||
      (course.boxes reader).closed) = true) :
    ∃ delivery, Moved (.receive reader) session (fun _ => none) delivery course
      (course.step (.receive reader)) := by
  by_cases mine : session = reader
  · subst mine
    refine ⟨(course.boxes session).receive.1, ?_, fun viewport => ?_, ?_⟩
    · have before : course.standing session =
          ⟨course.channel.roster.viewer? session, course.boxes session, course.channel.closed⟩ := rfl
      have after : (course.step (.receive session)).standing session =
          ⟨course.channel.roster.viewer? session, (course.boxes session).receive.2,
            course.channel.closed⟩ :=
        congrArg (Standing.mk _ · _) (Function.update_self ..)
      rw [before, after]
      exact .received (fun _ _ => rfl) allowed
    · exact (List.append_nil _).symm
    · rw [received_step_receive, if_pos rfl]
  · refine ⟨none, ?_, fun viewport => ?_, ?_⟩
    · have same : (course.step (.receive reader)).standing session = course.standing session :=
        standing_eq rfl (Function.update_of_ne mine _ _) rfl
      rw [same]
      exact .stay fun _ _ => rfl
    · exact (List.append_nil _).symm
    · rw [received_step_receive, if_neg (Ne.symm mine)]
      rfl

theorem moved_closeIfIdle (session : Nat) :
    Moved .closeIfIdle session (fun _ => none) none course (course.step .closeIfIdle) := by
  have roster : (course.step .closeIfIdle).channel.roster = course.channel.roster :=
    congrArg Reception.roster (reception_closeIfIdle course.channel)
  have closed : (course.step .closeIfIdle).channel.closed =
      (course.channel.roster.isEmpty || course.channel.closed) :=
    congrArg Ledger.closed (ledger_closeIfIdle course.channel)
  cases idle : course.channel.roster.isEmpty with
  | false =>
      rw [idle, Bool.false_or] at closed
      exact .stay (standing_eq (congrArg (Roster.viewer? · session) roster) rfl closed) rfl rfl
  | true =>
      have unlisted : course.channel.roster.viewer? session = none := by
        rw [Roster.viewer?, List.isEmpty_iff.mp idle]
        rfl
      rw [idle, Bool.true_or] at closed
      apply Moved.of_move
      · rw [standing, standing, closed, roster]
        show Standing.Move _ _ _ _ _ ⟨_, course.boxes session, _⟩
        rw [unlisted]
        exact .ended
      · rfl
      · rfl

theorem moved_close (inOrder : course.channel.reception.InOrder) (session : Nat) :
    Moved .close session (fun _ => none) none course (course.step .close) := by
  have roster : (course.step .close).channel.roster = course.channel.roster :=
    congrArg Reception.roster (reception_close course.channel)
  have closed : (course.step .close).channel.closed = true := rfl
  have box : (course.step .close).boxes session =
      if (course.channel.roster.viewer? session).isSome then (course.boxes session).close
      else course.boxes session := by
    refine (course.boxes.close_apply _ session).trans ?_
    cases found : course.channel.roster.viewer? session with
    | none =>
        apply if_neg
        intro member
        rcases List.mem_map.mp member with ⟨viewer, listed, rfl⟩
        have here : course.channel.roster.viewer? viewer.session = some viewer :=
          inOrder.exact.mem_viewers.mp listed
        rw [found] at here
        cases here
    | some viewer =>
        apply if_pos
        have own := inOrder.exact.own session viewer found
        have listed := inOrder.exact.mem_viewers.mpr (own.symm ▸ found)
        exact List.mem_map.mpr ⟨viewer, listed, own⟩
  apply Moved.of_move
  · rw [standing, standing, closed, roster, box]
    exact .ended
  · rfl
  · rfl

theorem moved_publish
    (inOrder : course.channel.reception.InOrder)
    (pick : Nat)
    (drawn : PerViewport (Option Rendering))
    (renderMs : Nat)
    (session : Nat) :
    ∃ new, Moved (.publish pick drawn renderMs) session new none course
      (course.step (.publish pick drawn renderMs)) := by
  rw [step]
  split
  case h_1 => exact ⟨_, .stay rfl rfl rfl⟩
  case h_2 version picked =>
    cases outcome : course.channel.publish version drawn renderMs with
    | mk published after =>
        cases published with
        | false =>
            have dropped : (course.finish pick).channel.publish version drawn renderMs =
                (false, after) := outcome
            rw [publish_of_dropped dropped]
            exact ⟨_, .stay rfl rfl rfl⟩
        | true =>
            have stored : (course.finish pick).channel.publish version drawn renderMs =
                (true, after) := outcome
            have kept := reception_publish course.channel version drawn renderMs
            have ledger := ledger_publish course.channel version drawn renderMs
            rw [outcome] at kept ledger
            have roster : after.roster = course.channel.roster := congrArg Reception.roster kept
            have closed : after.closed = course.channel.closed := congrArg Ledger.closed ledger
            rw [publish_of_published stored]
            refine ⟨Publication.stamped? ⟨course.publications.length, version, drawn⟩, ?_,
              fun viewport => ?_, (List.append_nil _).symm⟩
            · rw [standing, standing]
              show Standing.Move _ _ _ _ _ ⟨after.roster.viewer? session,
                ((course.boxes.publish course.channel
                  ⟨course.publications.length, version, drawn⟩ .narrow).publish course.channel
                  ⟨course.publications.length, version, drawn⟩ .wide) session, after.closed⟩
              rw [roster, closed]
              cases found : course.channel.roster.viewer? session with
              | none =>
                  rw [Boxes.publish_publish_of_unlisted inOrder found]
                  refine .stay fun _ impossible => ?_
                  cases impossible
              | some viewer =>
                  rw [Boxes.publish_publish_of_listed inOrder found]
                  cases shown : Publication.stamped?
                      ⟨course.publications.length, version, drawn⟩ viewer.viewport with
                  | none =>
                      rw [Boxes.publish_of_undrawn shown]
                      exact .stay fun listed same => Option.some.inj same ▸ shown
                  | some stamped =>
                      rw [Boxes.publish_of_watched
                        (inOrder.mem_sessionsIn.mpr ⟨viewer, found, rfl⟩) shown]
                      exact .offered shown
            · show List.filterMap _ (course.publications ++ [_]) = _
              rw [List.filterMap_append]
              rfl

/-- A turn does to a session one of the things that are listed. -/
theorem moved_turn
    (faithful : course.Faithful)
    (inOrder : course.channel.reception.InOrder)
    {session : Nat}
    (given : session ≤ course.channel.lastSession)
    (action : Action) :
    ∃ new delivery, Moved action session new delivery course (course.turn action) := by
  rw [turn]
  split
  case isFalse => exact ⟨_, _, .stay rfl rfl rfl⟩
  case isTrue permitted =>
    cases action with
    | record now message => exact ⟨_, _, moved_record now message session⟩
    | enter identity viewport address =>
        exact ⟨_, _, moved_enter inOrder identity viewport address given⟩
    | remove removed => exact ⟨_, _, moved_remove removed session⟩
    | closeMailbox shut =>
        rw [permits, Bool.and_eq_true] at permitted
        exact ⟨_, _, moved_closeMailbox session (Option.isNone_iff_eq_none.mp permitted.2)⟩
    | receive reader =>
        rw [permits, Bool.and_eq_true, faithful.mailboxes reader] at permitted
        exact ⟨_, moved_receive session permitted.2⟩
    | closeIfIdle => exact ⟨_, _, moved_closeIfIdle session⟩
    | close => exact ⟨_, _, moved_close inOrder session⟩
    | snapshot instant => exact ⟨_, _, .stay rfl rfl rfl⟩
    | publish pick drawn renderMs =>
        rcases moved_publish inOrder pick drawn renderMs session with ⟨new, moved⟩
        exact ⟨new, none, moved⟩

/-! ## New sessions -/

/-- How a session stands that was just given out. -/
structure Opened
    (identity : String)
    (viewport : Viewport)
    (address : Net.Address)
    (before after : Course) :
    Prop where
  lastSession : after.channel.lastSession = before.channel.lastSession + 1
  standing : after.standing (before.channel.lastSession + 1) =
    ⟨some ⟨before.channel.lastSession + 1, identity, viewport, address⟩,
      firstBox before.channel.settings.mailboxCapacity (before.cached viewport), false⟩
  publications : after.publications = before.publications
  stamped : after.stamped = before.stamped

theorem opened_enter
    (inOrder : course.channel.reception.InOrder)
    {identity : String}
    {viewport : Viewport}
    {address : Net.Address}
    {session : Nat}
    {displaced : Bool}
    {after : Channel}
    (entered : course.channel.enter identity viewport address = (.entered session displaced, after)) :
    Opened identity viewport address course (course.step (.enter identity viewport address)) := by
  have stepped : course.step (.enter identity viewport address) =
      { course with
        channel := after
        boxes := course.boxes.enter course.channel session identity (course.cached viewport) } := by
    rw [step, entered]
  have isOpen : course.channel.closed = false := by
    cases admission_of_enter inOrder entered with
    | fresh isOpen => exact isOpen
    | displacing isOpen => exact isOpen
  have closed : after.closed = course.channel.closed := by
    have same := ledger_enter course.channel identity viewport address
    rw [entered] at same
    exact congrArg Ledger.closed same
  have listed : after.roster.viewer? (course.channel.lastSession + 1) =
      some ⟨course.channel.lastSession + 1, identity, viewport, address⟩ := by
    cases admission_of_enter inOrder entered with
    | fresh => exact (inOrder.viewer?_welcome identity viewport address _).trans (if_pos rfl)
    | @displacing viewer =>
        have dismissed := inOrder.dismiss viewer.session
        exact (dismissed.viewer?_welcome identity viewport address _).trans (if_pos rfl)
  have given : session = course.channel.lastSession + 1 := (enter_of_entered entered).1
  have stage := stage_enter entered
  subst given
  rw [stepped]
  constructor
  · exact congrArg Stage.lastSession stage
  · rw [standing]
    show Standing.mk (after.roster.viewer? _) (course.boxes.enter _ _ _ _ _) after.closed = _
    rw [listed, closed, isOpen, Boxes.enter, Function.update_self]
  · rfl
  · rfl

/-- A turn gives out a session if it lets somebody in, and otherwise gives out none. -/
theorem turn_opens
    (inOrder : course.channel.reception.InOrder)
    (action : Action) :
    (course.turn action).channel.lastSession = course.channel.lastSession ∨
      ∃ identity viewport address,
        Opened identity viewport address course (course.turn action) := by
  rw [turn]
  split
  case isFalse => exact Or.inl rfl
  case isTrue =>
    cases action with
    | record now message =>
        have kept := reception_record course.channel now message
        exact Or.inl (congrArg Reception.lastSession kept)
    | enter identity viewport address =>
        cases outcome : course.channel.enter identity viewport address with
        | mk entry after =>
            cases entry with
            | entered session displaced =>
                exact Or.inr ⟨identity, viewport, address, opened_enter inOrder outcome⟩
            | closed =>
                rw [step, outcome, enter_of_not_entered outcome (by simp)]
                exact Or.inl rfl
            | rejected =>
                rw [step, outcome, enter_of_not_entered outcome (by simp)]
                exact Or.inl rfl
    | remove session =>
        have kept := reception_remove course.channel session
        exact Or.inl (congrArg Reception.lastSession kept)
    | closeMailbox session => exact Or.inl rfl
    | receive session => exact Or.inl rfl
    | closeIfIdle =>
        have kept := reception_closeIfIdle course.channel
        exact Or.inl (congrArg Reception.lastSession kept)
    | close =>
        have kept := reception_close course.channel
        exact Or.inl (congrArg Reception.lastSession kept)
    | snapshot instant => exact Or.inl rfl
    | publish pick drawn renderMs =>
        cases picked : course.drawing[pick]? with
        | none =>
            rw [step, picked]
            exact Or.inl rfl
        | some version =>
            rw [channel_step_publish picked]
            have kept := reception_publish course.channel version drawn renderMs
            exact Or.inl (congrArg Reception.lastSession kept)

/-- Nothing is delivered to a session that was not given out. -/
theorem received_turn_of_unborn
    {session : Nat}
    (unborn : course.channel.lastSession < session)
    (action : Action) :
    (course.turn action).received session = course.received session := by
  rw [turn]
  split
  case isFalse => rfl
  case isTrue permitted =>
    cases action with
    | receive reader =>
        rw [permits, Bool.and_eq_true] at permitted
        have given : reader ≤ course.channel.lastSession := of_decide_eq_true permitted.1
        rw [received_step_receive, if_neg (by omega), List.append_nil]
    | enter identity viewport address =>
        rw [step]
        split <;> rfl
    | publish pick drawn renderMs =>
        rw [step]
        split
        · rfl
        · rw [publish]
          split <;> rfl
    | _ => rfl

end Course

end FrameChat.Channel
