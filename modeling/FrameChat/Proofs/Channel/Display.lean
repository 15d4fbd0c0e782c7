import FrameChat.Proofs.Channel.Course

/-!
# What is displayed

Beside the last frame for a viewport a channel has the links behind its badges,
and the number of its bytes.  The three are written together, by publications,
and by nothing else.  They are therefore always those of one rendering, the last
one that was published for the viewport, whatever became of renderings for the
other (`displays_run`).
-/

namespace FrameChat.Channel

/-- What a channel has of the last picture for a viewport. -/
structure Display where
  frame : Option Frame
  links : List String
  bytes : Nat

def display (channel : Channel) (viewport : Viewport) : Display :=
  ⟨channel.frames.get viewport, channel.links.get viewport, channel.lastFrameBytes.get viewport⟩

/-- What there is of a rendering; before the first one there are no links and no bytes. -/
def Display.of : Option Rendering → Display
  | none => ⟨none, [], 0⟩
  | some rendering => ⟨some rendering.frame, rendering.links, rendering.frame.byteLength⟩

/-! ## What keeps the display -/

theorem display_record (channel : Channel) (now : Seconds) (message : Message) :
    (channel.record now message).2.display = channel.display := by
  rw [record]
  split <;> rfl

theorem display_enter
    (channel : Channel)
    (identity : String)
    (viewport : Viewport)
    (address : Net.Address) :
    (channel.enter identity viewport address).2.display = channel.display := by
  cases outcome : channel.enter identity viewport address with
  | mk entry after =>
      cases entry with
      | closed => rw [enter_of_not_entered outcome (by simp)]
      | rejected => rw [enter_of_not_entered outcome (by simp)]
      | entered session displaced =>
          rcases enter_of_entered outcome with ⟨-, rfl⟩
          rcases foldl_displace_eq (channel.roster.ofIdentity identity) channel with
            ⟨roster, mailboxes, same⟩
          rw [same]
          rfl

theorem display_remove (channel : Channel) (session : Nat) :
    (channel.remove session).2.display = channel.display := by
  rw [remove]
  split <;> rfl

theorem display_closeIfIdle (channel : Channel) :
    channel.closeIfIdle.2.display = channel.display := by
  rw [closeIfIdle]
  split <;> rfl

theorem display_close (channel : Channel) : channel.close.display = channel.display := by
  rcases foldl_closeMailbox_eq (channel.roster.viewers.map Viewer.session) channel with
    ⟨mailboxes, same⟩
  rw [close, same]
  rfl

/-! ## Publications -/

theorem display_store_same (channel : Channel) (viewport : Viewport) (rendering : Rendering) :
    (channel.store viewport (some rendering)).display viewport = Display.of (some rendering) := by
  rcases offerTo_eq rendering.frame (channel.sessionsIn viewport) channel with ⟨mailboxes, same⟩
  rw [store]
  dsimp only
  rw [same]
  simp [display, Display.of]

theorem display_store_of_ne
    (channel : Channel)
    {viewport other : Viewport}
    (rendering : Option Rendering)
    (differ : other ≠ viewport) :
    (channel.store viewport rendering).display other = channel.display other := by
  cases rendering with
  | none => rfl
  | some rendering =>
      rcases offerTo_eq rendering.frame (channel.sessionsIn viewport) channel with
        ⟨mailboxes, same⟩
      rw [store]
      dsimp only
      rw [same]
      simp only [display, PerViewport.get_set_of_ne _ _ differ]

/-- After a publication, what was drawn is displayed, and what could not be drawn is not. -/
theorem display_publish
    {channel after : Channel}
    {version : Nat}
    {drawn : PerViewport (Option Rendering)}
    {renderMs : Nat}
    (published : channel.publish version drawn renderMs = (true, after))
    (viewport : Viewport) :
    after.display viewport =
      match drawn.get viewport with
      | some rendering => Display.of (some rendering)
      | none => channel.display viewport := by
  rcases publish_of_true published with ⟨-, rfl⟩
  show ((channel.store .narrow drawn.narrow).store .wide drawn.wide).display viewport = _
  cases viewport with
  | narrow =>
      rw [display_store_of_ne _ _ (by decide), PerViewport.get]
      cases drawn.narrow with
      | none => rfl
      | some rendering => exact display_store_same channel .narrow rendering
  | wide =>
      rw [PerViewport.get]
      cases drawn.wide with
      | none => exact display_store_of_ne channel _ (by decide)
      | some rendering => exact display_store_same _ .wide rendering

/-! ## Courses -/

namespace Course

/-- The renderings that were published for a viewport, one after the other. -/
def renderings (course : Course) (viewport : Viewport) : List Rendering :=
  course.publications.filterMap fun publication => publication.drawn.get viewport

/-- What is displayed is the last rendering that was published. -/
def Displays (course : Course) : Prop :=
  ∀ viewport, course.channel.display viewport =
    Display.of (course.renderings viewport).getLast?

variable {course : Course}

theorem Displays.of_display
    (displays : course.Displays)
    {after : Course}
    (display : after.channel.display = course.channel.display)
    (publications : after.publications = course.publications) :
    after.Displays := by
  intro viewport
  rw [display, renderings, publications]
  exact displays viewport

theorem Displays.publish
    (displays : course.Displays)
    (version : Nat)
    (drawn : PerViewport (Option Rendering))
    (renderMs : Nat) :
    (course.publish version drawn renderMs).Displays := by
  cases outcome : course.channel.publish version drawn renderMs with
  | mk published after =>
      cases published with
      | false =>
          rw [publish_of_dropped outcome]
          exact displays
      | true =>
          intro viewport
          rw [publish_of_published outcome]
          refine (display_publish outcome viewport).trans ?_
          show _ = Display.of (List.filterMap _ (course.publications ++ [_])).getLast?
          rw [List.filterMap_append, List.getLast?_append, List.filterMap_cons]
          cases drawn.get viewport with
          | none => exact displays viewport
          | some rendering => rfl

theorem displays_start
    (name : String)
    (settings : Settings)
    (history : List Message)
    (active : Seconds)
    (counter : UInt64)
    (notices : PerViewport Frame)
    (instant : Nat) :
    (start name settings history active counter notices instant).Displays := by
  intro viewport
  cases viewport <;> rfl

theorem displays_step (displays : course.Displays) (action : Action) :
    (course.step action).Displays := by
  cases action with
  | record now message =>
      exact displays.of_display (display_record course.channel now message) rfl
  | enter identity viewport address =>
      have kept := display_enter course.channel identity viewport address
      rw [step]
      split
      case h_1 session displaced after outcome =>
        rw [outcome] at kept
        exact displays.of_display kept rfl
      case h_2 entry after outside outcome =>
        rw [outcome] at kept
        exact displays.of_display kept rfl
  | remove session => exact displays.of_display (display_remove course.channel session) rfl
  | closeMailbox session => exact displays
  | receive session => exact displays
  | closeIfIdle => exact displays.of_display (display_closeIfIdle course.channel) rfl
  | close => exact displays.of_display (display_close course.channel) rfl
  | snapshot instant => exact displays
  | publish pick drawn renderMs =>
      rw [step]
      split
      · exact displays
      · have finished : (course.finish pick).Displays := displays
        exact finished.publish _ drawn renderMs

theorem displays_run (displays : course.Displays) (actions : List Action) :
    (course.run actions).Displays := by
  induction actions generalizing course with
  | nil => exact displays
  | cons action rest ih => exact ih (displays_step displays action)

end Course

end FrameChat.Channel
