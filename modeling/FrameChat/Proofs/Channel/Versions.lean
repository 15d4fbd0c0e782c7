import FrameChat.Proofs.Channel.Course
import Mathlib.Data.List.Basic

/-!
# Versions of frames

Refreshes finish in any order, and each may publish for one viewport and not for
the other.  Nevertheless no viewport and no viewer is ever taken back to an older
state: a publication goes through only if its version is not below the one that
was published last, a mailbox holds at most the frame of the last publication
for its viewport, and a new viewer begins with the frame that is stored.

`Course.Ordered` says so of one moment, and every action preserves it.  It speaks
of what a viewer took together with what still waits for it, so that a delivery
changes nothing, and of the stored frames, with which the next viewers begin.
-/

namespace FrameChat.Channel

/-- One frame is of an earlier publication than another, and of a version not above. -/
structure Stamped.Before (earlier later : Stamped) : Prop where
  number : earlier.number < later.number
  version : earlier.version ≤ later.version

/-- A frame is of one of the first publications, up to a version. -/
structure Stamped.Within (count version : Nat) (stamped : Stamped) : Prop where
  number : stamped.number < count
  version : stamped.version ≤ version

theorem Stamped.Within.next {count version later : Nat} {stamped : Stamped}
    (within : stamped.Within count version) (notAbove : version ≤ later) :
    stamped.Within (count + 1) later :=
  ⟨Nat.lt_succ_of_lt within.number, Nat.le_trans within.version notAbove⟩

theorem Stamped.Within.before {count version : Nat} {earlier stamped : Stamped}
    (within : earlier.Within count version) (number : stamped.number = count)
    (notAbove : version ≤ stamped.version) : earlier.Before stamped :=
  ⟨number ▸ within.number, Nat.le_trans within.version notAbove⟩

/--
What becomes of a mailbox: frames may be discarded, or replaced by a fresh one.
A closed mailbox stays closed and gets nothing.
-/
structure Later (fresh : Stamped → Prop) (old new : Mailbox Stamped) : Prop where
  waiting : new.waiting.Sublist old.waiting ∨ ∃ stamped, fresh stamped ∧ new.waiting = [stamped]
  shut : old.closed = true → new.closed = true ∧ new.waiting.Sublist old.waiting

namespace Later

variable {fresh : Stamped → Prop} {old middle new : Mailbox Stamped}

theorem refl (box : Mailbox Stamped) : Later fresh box box :=
  ⟨Or.inl (List.Sublist.refl _), fun closed => ⟨closed, List.Sublist.refl _⟩⟩

theorem trans (first : Later fresh old middle) (second : Later fresh middle new) :
    Later fresh old new := by
  constructor
  · rcases second.waiting with fewer | replaced
    · rcases first.waiting with before | ⟨stamped, isFresh, only⟩
      · exact Or.inl (fewer.trans before)
      · rw [only] at fewer
        rcases List.sublist_singleton.mp fewer with none | same
        · exact Or.inl (none ▸ List.nil_sublist _)
        · exact Or.inr ⟨stamped, isFresh, same⟩
    · exact Or.inr replaced
  · intro closed
    rcases first.shut closed with ⟨stillClosed, before⟩
    rcases second.shut stillClosed with ⟨lastClosed, fewer⟩
    exact ⟨lastClosed, fewer.trans before⟩

theorem offer {stamped : Stamped} (isFresh : fresh stamped) (box : Mailbox Stamped) :
    Later fresh box (box.offer stamped).2 := by
  rcases box with ⟨capacity, waiting, notice, closed⟩
  cases closed with
  | true => exact refl _
  | false =>
      refine ⟨?_, fun closed => nomatch closed⟩
      by_cases full : capacity = 0
      · exact Or.inl (by simp [Mailbox.offer, full])
      · exact Or.inr ⟨stamped, isFresh, by simp [Mailbox.offer, full]⟩

theorem displace (notice : Stamped) (box : Mailbox Stamped) :
    Later fresh box (box.displace notice) :=
  ⟨Or.inl (List.nil_sublist _), fun _ => ⟨rfl, List.nil_sublist _⟩⟩

theorem close (box : Mailbox Stamped) : Later fresh box box.close :=
  ⟨Or.inl (List.nil_sublist _), fun _ => ⟨rfl, List.nil_sublist _⟩⟩

/-- Treating one mailbox after the other. -/
theorem foldl {ι : Type} {session : ι → Nat} {act : ι → Mailbox Stamped → Mailbox Stamped}
    (each : ∀ entry box, Later fresh box (act entry box)) (entries : List ι) (boxes : Boxes)
    (other : Nat) :
    Later fresh (boxes other)
      (entries.foldl
        (fun boxes entry =>
          Function.update boxes (session entry) (act entry (boxes (session entry)))) boxes other) := by
  induction entries generalizing boxes with
  | nil => exact refl _
  | cons entry rest ih =>
      have first : Later fresh (boxes other)
          (Function.update boxes (session entry) (act entry (boxes (session entry))) other) := by
        rw [Function.update_apply]
        split
        case isTrue same => exact same ▸ each entry (boxes other)
        case isFalse => exact refl _
      exact first.trans (ih _)

end Later

theorem Boxes.later_close {fresh : Stamped → Prop} (boxes : Boxes) (sessions : List Nat)
    (session : Nat) : Later fresh (boxes session) (boxes.close sessions session) :=
  Later.foldl (fun _ box => Later.close box) sessions boxes session

theorem Boxes.later_displace {fresh : Stamped → Prop} (boxes : Boxes)
    (notices : PerViewport Frame) (viewers : List Viewer) (session : Nat) :
    Later fresh (boxes session) (boxes.displace notices viewers session) :=
  Later.foldl (fun _ box => Later.displace _ box) viewers boxes session

theorem Boxes.later_publish {fresh : Stamped → Prop} (boxes : Boxes) (channel : Channel)
    {publication : Publication} {viewport : Viewport}
    (isFresh : ∀ stamped, publication.stamped? viewport = some stamped → fresh stamped)
    (session : Nat) :
    Later fresh (boxes session) (boxes.publish channel publication viewport session) := by
  rw [Boxes.publish]
  cases drawn : publication.stamped? viewport with
  | none => exact Later.refl _
  | some stamped =>
      exact Later.foldl (fun _ box => Later.offer (isFresh stamped drawn) box)
        (channel.sessionsIn viewport) boxes session

namespace Course

/-- What a viewer took and what it still may take. -/
def seen (course : Course) (session : Nat) : List Stamped :=
  course.taken session ++ (course.boxes session).waiting

/-- Publications go on in the order of versions, and no viewer is taken back. -/
structure Ordered (course : Course) : Prop where
  publications : course.publications.Pairwise fun earlier later =>
    earlier.number < later.number ∧ earlier.version ≤ later.version
  within : ∀ publication ∈ course.publications,
    publication.number < course.publications.length ∧
      publication.version ≤ course.channel.publishedVersion
  newest : course.channel.publishedVersion = 0 ∨
    ∃ publication ∈ course.publications, publication.version = course.channel.publishedVersion
  seen : ∀ session, (course.seen session).Pairwise Stamped.Before
  seenWithin : ∀ session, ∀ stamped ∈ course.seen session,
    stamped.Within course.publications.length course.channel.publishedVersion
  unborn : ∀ session, course.channel.lastSession < session →
    course.seen session = [] ∧ (course.boxes session).closed = true

variable {course : Course}

/-- A mailbox that gets nothing but newer frames takes no viewer back. -/
theorem pairwise_of_later {taken : List Stamped} {old new : Mailbox Stamped}
    {fresh : Stamped → Prop} (later : Later fresh old new)
    (ordered : (taken ++ old.waiting).Pairwise Stamped.Before)
    (newer : ∀ stamped, fresh stamped → ∀ earlier ∈ taken, earlier.Before stamped) :
    (taken ++ new.waiting).Pairwise Stamped.Before := by
  rcases later.waiting with fewer | ⟨stamped, isFresh, only⟩
  · exact ordered.sublist (fewer.append_left taken)
  · rw [only]
    refine List.pairwise_append.mpr
      ⟨(List.pairwise_append.mp ordered).1, List.pairwise_singleton _ _, ?_⟩
    intro earlier member last same
    rw [List.mem_singleton.mp same]
    exact newer stamped isFresh earlier member

theorem mem_of_later {taken : List Stamped} {old new : Mailbox Stamped}
    {fresh : Stamped → Prop} (later : Later fresh old new) {stamped : Stamped}
    (member : stamped ∈ taken ++ new.waiting) :
    stamped ∈ taken ++ old.waiting ∨ fresh stamped := by
  rcases List.mem_append.mp member with before | waits
  · exact Or.inl (List.mem_append_left _ before)
  · rcases later.waiting with fewer | ⟨only, isFresh, same⟩
    · exact Or.inl (List.mem_append_right _ (fewer.subset waits))
    · rw [same] at waits
      exact Or.inr (List.mem_singleton.mp waits ▸ isFresh)

theorem seen_eq_nil_of_later {taken : List Stamped} {old new : Mailbox Stamped}
    {fresh : Stamped → Prop} (later : Later fresh old new) (closed : old.closed = true)
    (nothing : taken ++ old.waiting = []) : taken ++ new.waiting = [] ∧ new.closed = true := by
  rcases List.append_eq_nil_iff.mp nothing with ⟨noneTaken, noneWaiting⟩
  rcases later.shut closed with ⟨stillClosed, fewer⟩
  rw [noneWaiting, List.sublist_nil] at fewer
  rw [noneTaken, fewer]
  exact ⟨rfl, stillClosed⟩

/-- Steps that publish nothing and let nobody in, and at most discard frames. -/
theorem Ordered.discard (ordered : course.Ordered) {after : Channel} {boxes : Boxes}
    (stage : after.stage = course.channel.stage)
    (later : ∀ session, Later (fun _ => False) (course.boxes session) (boxes session))
    (drawing : List Nat) :
    Ordered { course with channel := after, boxes, drawing } := by
  have samePublished : after.publishedVersion = course.channel.publishedVersion :=
    congrArg Stage.publishedVersion stage
  have sameSession : after.lastSession = course.channel.lastSession :=
    congrArg Stage.lastSession stage
  refine ⟨ordered.publications, ?_, ?_, fun session => ?_, fun session stamped member => ?_,
    fun session unborn => ?_⟩
  · exact samePublished ▸ ordered.within
  · exact samePublished ▸ ordered.newest
  · exact pairwise_of_later (later session) (ordered.seen session) fun _ impossible =>
      impossible.elim
  · rcases mem_of_later (later session) member with old | impossible
    · exact samePublished ▸ ordered.seenWithin session stamped old
    · exact impossible.elim
  · rcases ordered.unborn session (sameSession ▸ unborn) with ⟨nothing, closed⟩
    exact seen_eq_nil_of_later (later session) closed nothing

theorem Ordered.backstage (ordered : course.Ordered) {after : Channel}
    (backstage : Backstage course.channel after) (drawing : List Nat) :
    Ordered { course with channel := after, drawing } :=
  ordered.discard backstage.stage (fun _ => Later.refl _) drawing

/-! ## New viewers -/

theorem waiting_firstBox (capacity : Nat) (cached : Option Stamped) :
    (firstBox capacity cached).waiting.Sublist cached.toList := by
  cases cached with
  | none => exact List.Sublist.refl _
  | some stamped =>
      by_cases full : capacity = 0
      · simp [firstBox, Mailbox.offer, Mailbox.empty, full]
      · simp [firstBox, Mailbox.offer, Mailbox.empty, full]

theorem pairwise_firstBox (capacity : Nat) (cached : Option Stamped) :
    (firstBox capacity cached).waiting.Pairwise Stamped.Before := by
  refine List.Pairwise.sublist (waiting_firstBox capacity cached) ?_
  cases cached with
  | none => exact List.Pairwise.nil
  | some stamped => exact List.pairwise_singleton _ stamped

theorem mem_firstBox {capacity : Nat} {cached : Option Stamped} {stamped : Stamped}
    (member : stamped ∈ (firstBox capacity cached).waiting) : cached = some stamped :=
  Option.mem_toList.mp ((waiting_firstBox capacity cached).subset member)

/-- Every stored frame is of a publication. -/
theorem mem_stored {viewport : Viewport} {stamped : Stamped} :
    stamped ∈ course.stored viewport ↔
      ∃ publication ∈ course.publications, publication.stamped? viewport = some stamped :=
  List.mem_filterMap

theorem stamped?_eq_some {publication : Publication} {viewport : Viewport} {stamped : Stamped}
    (drawn : publication.stamped? viewport = some stamped) :
    stamped.number = publication.number ∧ stamped.version = publication.version := by
  rcases Option.map_eq_some_iff.mp drawn with ⟨rendering, -, rfl⟩
  exact ⟨rfl, rfl⟩

theorem Ordered.stored_within (ordered : course.Ordered) {viewport : Viewport} {stamped : Stamped}
    (member : stamped ∈ course.stored viewport) :
    stamped.Within course.publications.length course.channel.publishedVersion := by
  rcases mem_stored.mp member with ⟨publication, published, drawn⟩
  rcases stamped?_eq_some drawn with ⟨sameNumber, sameVersion⟩
  rcases ordered.within publication published with ⟨number, version⟩
  exact ⟨sameNumber ▸ number, sameVersion ▸ version⟩

/-- A new viewer begins with the stored frame, and nobody else is taken back. -/
theorem Ordered.enter (ordered : course.Ordered) {after : Channel} {identity : String}
    {viewport : Viewport} {address : Net.Address} {session : Nat} {displaced : Bool}
    (entered : course.channel.enter identity viewport address =
      (.entered session displaced, after)) :
    Ordered
      { course with
        channel := after
        boxes := course.boxes.enter course.channel session identity (course.cached viewport) } := by
  have stage := stage_enter entered
  have samePublished : after.publishedVersion = course.channel.publishedVersion :=
    congrArg Stage.publishedVersion stage
  have lastSession : after.lastSession = session := congrArg Stage.lastSession stage
  rcases enter_of_entered entered with ⟨next, -⟩
  have others (other : Nat) (differ : other ≠ session) :
      Later (fun _ => False) (course.boxes other)
        (course.boxes.enter course.channel session identity (course.cached viewport) other) := by
    rw [Boxes.enter, Function.update_of_ne differ]
    exact course.boxes.later_displace _ _ other
  have own : course.boxes.enter course.channel session identity (course.cached viewport) session =
      firstBox course.channel.settings.mailboxCapacity (course.cached viewport) :=
    Function.update_self ..
  have fresh : course.taken session = [] :=
    (List.append_eq_nil_iff.mp (ordered.unborn session (by omega)).1).1
  refine ⟨ordered.publications, samePublished ▸ ordered.within, samePublished ▸ ordered.newest,
    fun other => ?_, fun other stamped member => ?_, fun other unborn => ?_⟩
  -- Nobody had the new session before, so that the first frame is all its viewer sees.
  · by_cases same : other = session
    · subst same
      show (course.taken other ++ (course.boxes.enter course.channel other identity
        (course.cached viewport) other).waiting).Pairwise _
      rw [fresh, own, List.nil_append]
      exact pairwise_firstBox _ _
    · exact pairwise_of_later (others other same) (ordered.seen other) fun _ impossible =>
        impossible.elim
  · show stamped.Within course.publications.length after.publishedVersion
    rw [samePublished]
    by_cases same : other = session
    · subst same
      replace member : stamped ∈ course.taken other ++ (course.boxes.enter course.channel other
        identity (course.cached viewport) other).waiting := member
      rw [fresh, own, List.nil_append] at member
      exact ordered.stored_within (List.mem_of_getLast? (mem_firstBox member))
    · rcases mem_of_later (others other same) member with old | impossible
      · exact ordered.seenWithin other stamped old
      · exact impossible.elim
  · have beyond : session < other := lastSession ▸ unborn
    rcases ordered.unborn other (by omega) with ⟨nothing, closed⟩
    exact seen_eq_nil_of_later (others other (by omega)) closed nothing

/-! ## Deliveries -/

/-- A delivery moves a frame from those that wait to those that were taken. -/
theorem waiting_receive {α : Type} (mailbox : Mailbox α) :
    (mailbox.receive.1.bind Delivery.frame?).toList ++ mailbox.receive.2.waiting =
      mailbox.waiting ∧ mailbox.receive.2.closed = mailbox.closed := by
  rcases mailbox with ⟨capacity, waiting, notice, closed⟩
  cases notice with
  | some notice => exact ⟨rfl, rfl⟩
  | none =>
      cases waiting with
      | cons frame rest => exact ⟨rfl, rfl⟩
      | nil => cases closed <;> exact ⟨rfl, rfl⟩

/-- What a viewer took and still may take does not depend on what it took already. -/
theorem seen_receive (session other : Nat) :
    (course.step (.receive session)).seen other = course.seen other ∧
      ((course.step (.receive session)).boxes other).closed = (course.boxes other).closed := by
  rcases waiting_receive (course.boxes session) with ⟨moved, closed⟩
  have boxes : (course.step (.receive session)).boxes =
      Function.update course.boxes session (course.boxes session).receive.2 := rfl
  have taken : (course.step (.receive session)).taken other =
      course.taken other ++
        if session = other then ((course.boxes session).receive.1.bind Delivery.frame?).toList
        else [] := by
    show List.filterMap _ (course.stamped ++
      ((course.boxes session).receive.1.map (session, ·)).toList) = _
    rw [List.filterMap_append]
    congr 1
    cases delivered : (course.boxes session).receive.1 with
    | none => simp
    | some delivery =>
        by_cases same : session = other
        · cases delivery <;> simp [same, Delivery.frame?]
        · simp [same]
  by_cases same : session = other
  · subst same
    rw [Course.seen, taken, boxes, Function.update_self, if_pos rfl, List.append_assoc, moved]
    exact ⟨rfl, closed⟩
  · rw [Course.seen, taken, boxes, Function.update_of_ne (Ne.symm same), if_neg same,
      List.append_nil]
    exact ⟨rfl, rfl⟩

theorem Ordered.receive (ordered : course.Ordered) (session : Nat) :
    (course.step (.receive session)).Ordered := by
  refine ⟨ordered.publications, ordered.within, ordered.newest, fun other => ?_,
    fun other stamped member => ?_, fun other unborn => ?_⟩
  · rw [(seen_receive session other).1]
    exact ordered.seen other
  · rw [(seen_receive session other).1] at member
    exact ordered.seenWithin other stamped member
  · rw [(seen_receive session other).1, (seen_receive session other).2]
    exact ordered.unborn other unborn

/-! ## Publications -/

/-- A publication that goes through is of a version not below the last, and mailboxes follow it. -/
theorem Ordered.published (ordered : course.Ordered) {version : Nat}
    {drawn : PerViewport (Option Rendering)} {renderMs : Nat} {after : Channel}
    (published : course.channel.publish version drawn renderMs = (true, after)) :
    (course.publish version drawn renderMs).Ordered := by
  rw [publish_of_published published]
  rcases publish_of_true published with ⟨inTime, afterIs⟩
  have publishedVersion : after.publishedVersion = version := by rw [afterIs]
  have sameSession := lastSession_publish published
  have isFresh (viewport : Viewport) (stamped : Stamped)
      (here : Publication.stamped? ⟨course.publications.length, version, drawn⟩ viewport =
        some stamped) :
      stamped.number = course.publications.length ∧ stamped.version = version :=
    stamped?_eq_some here
  have later (session : Nat) :=
    (course.boxes.later_publish course.channel (isFresh .narrow) session).trans
      (Boxes.later_publish _ course.channel (isFresh .wide) session)
  -- Its number is above all numbers before, and its version not below any.
  refine ⟨?_, fun publication member => ?_, Or.inr ?_, fun session => ?_,
    fun session stamped member => ?_, fun session unborn => ?_⟩
  · refine List.pairwise_append.mpr ⟨ordered.publications, List.pairwise_singleton _ _, ?_⟩
    intro earlier member last same
    rw [List.mem_singleton.mp same]
    rcases ordered.within earlier member with ⟨number, below⟩
    exact ⟨number, Nat.le_trans below inTime⟩
  · show publication.number < (course.publications ++ [_]).length ∧
      publication.version ≤ after.publishedVersion
    rw [publishedVersion, List.length_append, List.length_singleton]
    rcases List.mem_append.mp member with old | new
    · rcases ordered.within publication old with ⟨number, below⟩
      exact ⟨Nat.lt_succ_of_lt number, Nat.le_trans below inTime⟩
    · rw [List.mem_singleton.mp new]
      exact ⟨Nat.lt_succ_self _, Nat.le_refl _⟩
  · exact ⟨_, List.mem_append_right _ (List.mem_singleton.mpr rfl), publishedVersion.symm⟩
  · refine pairwise_of_later (later session) (ordered.seen session) ?_
    rintro stamped ⟨number, same⟩ earlier member
    have within := ordered.seenWithin session earlier (List.mem_append_left _ member)
    exact within.before number (same ▸ inTime)
  · show stamped.Within (course.publications ++ [_]).length after.publishedVersion
    rw [publishedVersion, List.length_append, List.length_singleton]
    rcases mem_of_later (later session) member with old | ⟨number, same⟩
    · exact (ordered.seenWithin session stamped old).next inTime
    · exact ⟨number ▸ Nat.lt_succ_self _, Nat.le_of_eq same⟩
  · rcases ordered.unborn session (sameSession ▸ unborn) with ⟨nothing, closed⟩
    exact seen_eq_nil_of_later (later session) closed nothing

theorem Ordered.publish (ordered : course.Ordered) (version : Nat)
    (drawn : PerViewport (Option Rendering)) (renderMs : Nat) :
    (course.publish version drawn renderMs).Ordered := by
  cases outcome : course.channel.publish version drawn renderMs with
  | mk published after =>
      cases published with
      | true => exact ordered.published outcome
      | false =>
          rw [publish_of_dropped outcome]
          exact ordered

/-! ## Whole courses -/

theorem ordered_start (name : String) (settings : Settings) (history : List Message)
    (active : Seconds) (counter : UInt64) (notices : PerViewport Frame) (instant : Nat) :
    (start name settings history active counter notices instant).Ordered :=
  ⟨List.Pairwise.nil, fun _ member => (nomatch member), Or.inl rfl, fun _ => List.Pairwise.nil,
    fun _ _ member => (nomatch member), fun _ _ => ⟨rfl, rfl⟩⟩

theorem ordered_step (ordered : course.Ordered) (action : Action) :
    (course.step action).Ordered := by
  cases action with
  | record now message =>
      exact ordered.backstage (backstage_record course.channel now message) course.drawing
  | enter identity viewport address =>
      rw [step]
      split
      case h_1 session displaced after entered => exact ordered.enter entered
      case h_2 entry after outside refused =>
        rw [enter_of_not_entered refused outside]
        exact ordered
  | remove session =>
      exact ordered.backstage (backstage_remove course.channel session) course.drawing
  | closeMailbox session =>
      have stage : (course.channel.closeMailbox session).stage = course.channel.stage := rfl
      exact ordered.discard stage (course.boxes.later_close [session]) course.drawing
  | receive session => exact ordered.receive session
  | closeIfIdle => exact ordered.backstage (backstage_closeIfIdle course.channel) course.drawing
  | close =>
      exact ordered.discard (stage_close course.channel) (course.boxes.later_close _) course.drawing
  | snapshot instant =>
      exact ordered.backstage (backstage_snapshot course.channel instant) _
  | publish pick drawn renderMs =>
      rw [step]
      split
      · exact ordered
      · have finished : (course.finish pick).Ordered :=
          ⟨ordered.publications, ordered.within, ordered.newest, ordered.seen,
            ordered.seenWithin, ordered.unborn⟩
        exact finished.publish _ drawn renderMs

theorem ordered_run (ordered : course.Ordered) (actions : List Action) :
    (course.run actions).Ordered := by
  induction actions generalizing course with
  | nil => exact ordered
  | cons action rest ih => exact ih (ordered_step ordered action)

/-- The frames that are stored for a viewport go on in the order of versions. -/
theorem Ordered.stored (ordered : course.Ordered) (viewport : Viewport) :
    (course.stored viewport).Pairwise Stamped.Before := by
  refine List.pairwise_filterMap.mpr (ordered.publications.imp ?_)
  intro earlier later before first firstDrawn second secondDrawn
  rcases stamped?_eq_some firstDrawn with ⟨firstNumber, firstVersion⟩
  rcases stamped?_eq_some secondDrawn with ⟨secondNumber, secondVersion⟩
  exact ⟨by omega, by omega⟩

/--
However refreshes and all else take turns: the versions of the frames that are
stored for a viewport never decrease, nor do those of the frames that a viewer
takes, the one that it found when it came included.
-/
theorem versions_ordered (name : String) (settings : Settings) (history : List Message)
    (active : Seconds) (counter : UInt64) (notices : PerViewport Frame) (instant : Nat)
    (actions : List Action) :
    let course := (start name settings history active counter notices instant).run actions
    (∀ viewport, (course.stored viewport).Pairwise fun earlier later =>
        earlier.version ≤ later.version) ∧
      (∀ session, (course.taken session).Pairwise fun earlier later =>
        earlier.version ≤ later.version) ∧
      (∀ viewport, course.channel.frames.get viewport =
        (course.stored viewport).getLast?.map Stamped.frame) ∧
      ∀ session, course.deliveries.filterMap
          (fun entry => if entry.1 = session then entry.2.frame? else none) =
        (course.taken session).map Stamped.frame := by
  intro course
  have ordered : course.Ordered := ordered_run (ordered_start ..) actions
  have faithful : course.Faithful := faithful_run (faithful_start ..) actions
  refine ⟨fun viewport => (ordered.stored viewport).imp Stamped.Before.version,
    fun session => ?_, faithful.frames, fun session => ?_⟩
  · exact (List.pairwise_append.mp (ordered.seen session)).1.imp Stamped.Before.version
  · rw [faithful.deliveries, Course.taken, List.filterMap_map, List.map_filterMap]
    congr 1
    funext entry
    by_cases same : entry.1 = session
    · cases delivered : entry.2 <;> simp [same, delivered, Delivery.map, Delivery.frame?]
    · simp [same]

end Course

end FrameChat.Channel