import FrameChat.Proofs.Face.Loans
import FrameChat.Service.Drawing

/-!
# Who holds the faces of a service

Faces are taken and returned directly, or by drawings.  A drawing holds a face from its
beginning to its end; at its open place anything may happen, other drawings included, each of
which has an open place of its own.  So what happens to the faces is a tree of events.

A `Lending` is a service with a book of who holds which face.  The book is kept by the rules
above and not by what drawings do to the pool: that both agree at every moment is what is
proved.

* `conduct_operation`: what a whole drawing does to the pool, whatever happens in the middle.
* `Recorded.performAll`: the moments of a service are a course of its pool.
* `faces_accounted`: what this means for every sequence of events, and for every drawing.
-/

namespace FrameChat

open Service (Op)

/-- A drawing that is called for as a whole. -/
inductive Drawing where
  | frame (scene : Scene) (viewport : Viewport)
  | notice (viewport : Viewport) (text : String)

namespace Drawing

/-- What is done for a drawing. -/
def operation : Drawing → Op Unit
  | .frame scene viewport => discard (Service.render scene viewport)
  | .notice viewport text => discard (Service.renderNotice viewport text)

/-- The picture that is drawn. -/
def picture (service : Service) : Drawing → Picture
  | .frame scene viewport =>
      Picture.ofScene service.studio.face service.studio.table service.studio.atlas.isSome scene
        viewport
  | .notice viewport text => Picture.ofNotice service.studio.face text viewport

/-- Whether no character is drawn; there is no open place then. -/
def isBlank (service : Service) (drawing : Drawing) : Bool :=
  (drawing.picture service).sheet.glyphs.isEmpty

end Drawing

/-- A service, and who holds its faces. -/
structure Lending where
  service : Service
  /-- faces that were taken directly -/
  hands : List Nat
  /-- faces of the drawings that are not finished, the innermost first -/
  drawing : List Nat
  /-- all moments up to now, the latest first -/
  moments : List FacePool.Moment

namespace Lending

/-- Something that happens to the faces. -/
inductive Event where
  | checkout
  /-- return a face that was taken directly -/
  | giveBack (face : Nat)
  /-- whoever took these faces directly is stopped by a panic, so that they go back -/
  | panic (faces : List Nat)
  /-- a whole drawing, in the middle of which other things happen -/
  | draw (drawing : Drawing) (meanwhile : List Event)
  /-- the service becomes another one, with the same faces -/
  | change (service : Service)

/-- The faces of a service. -/
def pool (lending : Lending) : FacePool :=
  lending.service.faces

/-- The faces that are held. -/
def held (lending : Lending) : List Nat :=
  lending.hands ++ lending.drawing

/-- What is to be seen of the faces now. -/
def now (lending : Lending) : FacePool.Moment :=
  ⟨lending.pool, lending.held⟩

/-- Note the present moment. -/
def noted (lending : Lending) : Lending :=
  { lending with moments := lending.now :: lending.moments }

/-- The same with another pool. -/
def withPool (lending : Lending) (pool : FacePool) : Lending :=
  { lending with service := { lending.service with faces := pool } }

/-- A service that has built no face. -/
def start (service : Service) : Lending :=
  noted ⟨{ service with faces := FacePool.empty }, [], [], []⟩

/-- Take a face directly. -/
def checkout (lending : Lending) : Lending :=
  noted { lending.withPool lending.pool.checkout.2 with
    hands := lending.pool.checkout.1 :: lending.hands }

/-- Return a face that was taken directly; nobody can return another one. -/
def giveBack (lending : Lending) (face : Nat) : Lending :=
  if face ∈ lending.hands then
    noted { lending.withPool (lending.pool.giveBack face) with hands := lending.hands.erase face }
  else lending

/-- A drawing has begun, and holds the face that the pool gives out. -/
def begun (lending : Lending) : Lending :=
  noted { lending.withPool lending.pool.checkout.2 with
    drawing := lending.pool.checkout.1 :: lending.drawing }

/-- The innermost drawing has ended, and holds nothing any more. -/
def ended (lending : Lending) : Lending :=
  noted { lending with drawing := lending.drawing.tail }

/-- Run an operation on the service alone, but for what happens at its open places. -/
def conduct {α : Type} (meanwhile : Lending → Lending) :
    Op α → Lending → Except Operation.Fault α × Lending
  | .done value, lending => (.ok value, lending)
  | .abandoned fault, lending => (.error fault, lending)
  | .step act next, lending =>
      conduct meanwhile (next (act lending.service).1)
        { lending with service := (act lending.service).2 }
  | .clock next, lending => conduct meanwhile (next (some lending.service.clock)) lending
  | .drawing _ next, lending => conduct meanwhile (next ()) (meanwhile lending)

mutual

/-- The lending after an event. -/
def perform (lending : Lending) : Event → Lending
  | .checkout => lending.checkout
  | .giveBack face => lending.giveBack face
  | .panic faces => faces.foldl giveBack lending
  | .draw drawing meanwhile =>
      -- The book says that the face is held; what becomes of the pool is up to the operation.
      (conduct (fun amid => amid.performAll meanwhile) drawing.operation
        { lending.begun with service := lending.service }).2.ended
  | .change service => { lending with service := { service with faces := lending.pool } }

/-- The lending after events, one after the other. -/
def performAll (lending : Lending) : List Event → Lending
  | [] => lending
  | event :: rest => (lending.perform event).performAll rest

end

/-- The lending when a drawing is about to return its face. -/
def amid (lending : Lending) (drawing : Drawing) (meanwhile : List Event) : Lending :=
  if drawing.isBlank lending.service then lending.begun else lending.begun.performAll meanwhile

/-! ## What a drawing does -/

section Conduct

variable {α β : Type} (meanwhile : Lending → Lending)

/-- Of two operations in a row, the second begins where the first ended. -/
theorem conduct_bind (first : Op α) (rest : α → Op β) (lending : Lending) :
    conduct meanwhile (first >>= rest) lending =
      match conduct meanwhile first lending with
      | (.ok value, lending) => conduct meanwhile (rest value) lending
      | (.error fault, lending) => (.error fault, lending) := by
  show conduct meanwhile (first.bind rest) lending = _
  induction first generalizing lending with
  | done value => rfl
  | abandoned fault => rfl
  | step act next ih => exact ih _ _
  | clock next ih => exact ih _ _
  | drawing sheet next ih => exact ih _ _

/-- The open place of a sheet is where a character is drawn. -/
theorem conduct_sheet (sheet : Sheet) (lending : Lending) :
    conduct meanwhile (Operation.draw sheet) lending =
      (.ok (), if sheet.glyphs.isEmpty then lending else meanwhile lending) := by
  rw [Operation.draw]
  split <;> rfl

/-- A picture is drawn with a face that is taken before and returned behind the open place. -/
theorem conduct_draw (picture : Picture) (lending : Lending) :
    let taken := lending.withPool lending.pool.checkout.2
    let amid := if picture.sheet.glyphs.isEmpty then taken else meanwhile taken
    ∃ drawn, conduct meanwhile (Service.draw picture) lending =
      (.ok drawn, amid.withPool (amid.pool.giveBack lending.pool.checkout.1)) := by
  intro taken amid
  have checkedOut : conduct meanwhile Service.checkoutFace lending =
      (.ok lending.pool.checkout.1, taken) := rfl
  have asked : conduct meanwhile (Operation.ask Service.inkFails) amid =
      (.ok amid.service.inkFails, amid) := rfl
  have returned : conduct meanwhile (Service.giveBackFace lending.pool.checkout.1) amid =
      (.ok (), amid.withPool (amid.pool.giveBack lending.pool.checkout.1)) := rfl
  simp only [Service.draw, conduct_bind, checkedOut, conduct_sheet]
  simp only [show (if picture.sheet.glyphs.isEmpty then taken else meanwhile taken) = amid from rfl,
    asked, returned]
  split <;> exact ⟨_, rfl⟩

theorem conduct_discard (operation : Op α) (lending : Lending) :
    (conduct meanwhile (discard operation) lending).2 = (conduct meanwhile operation lending).2 := by
  show (conduct meanwhile (operation >>= fun _ => pure ()) lending).2 = _
  rw [conduct_bind]
  cases conduct meanwhile operation lending with
  | mk result after => cases result <;> rfl

/-- Whatever a drawing ends with, it has taken one face and returned it. -/
theorem conduct_operation (drawing : Drawing) (lending : Lending) :
    let taken := lending.withPool lending.pool.checkout.2
    let amid := if drawing.isBlank lending.service then taken else meanwhile taken
    (conduct meanwhile drawing.operation lending).2 =
      amid.withPool (amid.pool.giveBack lending.pool.checkout.1) := by
  have asked : conduct meanwhile (Operation.ask Service.studio) lending =
      (.ok lending.service.studio, lending) := rfl
  rcases conduct_draw meanwhile (drawing.picture lending.service) lending with ⟨drawn, done⟩
  cases drawing with
  | frame scene viewport =>
      rw [Drawing.picture] at done
      rw [Drawing.operation, conduct_discard, Service.render, conduct_bind, asked]
      dsimp only
      rw [conduct_bind, done]
      dsimp only
      split <;> rfl
  | notice viewport text =>
      rw [Drawing.picture] at done
      rw [Drawing.operation, conduct_discard, Service.renderNotice, conduct_bind, asked]
      dsimp only
      rw [conduct_bind, done]
      rfl

end Conduct

/-- A whole drawing, with what happens in the middle of it. -/
theorem perform_draw (lending : Lending) (drawing : Drawing) (meanwhile : List Event) :
    let amid := lending.amid drawing meanwhile
    lending.perform (.draw drawing meanwhile) =
      (amid.withPool (amid.pool.giveBack lending.pool.checkout.1)).ended := by
  rw [perform, conduct_operation]
  rfl

/-! ## What events have in common -/

/-- What holds of all events in the middle of a drawing may be used for the drawing. -/
theorem Event.induction {motive : Event → Prop}
    (checkout : motive .checkout)
    (giveBack : ∀ face, motive (.giveBack face))
    (panic : ∀ faces, motive (.panic faces))
    (draw : ∀ drawing meanwhile, (∀ event ∈ meanwhile, motive event) →
      motive (.draw drawing meanwhile))
    (change : ∀ service, motive (.change service))
    (event : Event) : motive event :=
  @Event.rec motive (fun events => ∀ event ∈ events, motive event)
    checkout giveBack panic draw change nofun
    (fun _ _ first rest => List.forall_mem_cons.mpr ⟨first, rest⟩) event

section Related

variable {related : Lending → Lending → Prop} (refl : ∀ lending, related lending lending)
  (trans : ∀ {first second third}, related first second → related second third →
    related first third)

include refl trans

/-- What each of some events has in common, all of them together have too. -/
theorem performAll_related {events : List Event}
    (each : ∀ event ∈ events, ∀ lending : Lending, related lending (lending.perform event))
    (lending : Lending) : related lending (lending.performAll events) := by
  induction events generalizing lending with
  | nil => exact refl lending
  | cons event rest ih =>
      rw [List.forall_mem_cons] at each
      rw [performAll]
      exact trans (each.1 lending) (ih each.2 _)

theorem amid_related {meanwhile : List Event}
    (each : ∀ event ∈ meanwhile, ∀ lending : Lending, related lending (lending.perform event))
    (lending : Lending) (drawing : Drawing) :
    related lending.begun (lending.amid drawing meanwhile) := by
  rw [amid]
  split
  · exact refl _
  · exact performAll_related refl trans each _

/--
What a direct step has in common with all others an event has too, if a drawing has it whenever
what happens in the middle of it has.
-/
theorem perform_related
    (checkout : ∀ lending, related lending lending.checkout)
    (giveBack : ∀ lending face, related lending (lending.giveBack face))
    (draw : ∀ lending drawing meanwhile, related lending.begun (lending.amid drawing meanwhile) →
      related lending (lending.perform (.draw drawing meanwhile)))
    (change : ∀ lending service, related lending (lending.perform (.change service)))
    (event : Event) (lending : Lending) : related lending (lending.perform event) := by
  induction event using Event.induction generalizing lending with
  | checkout =>
      rw [perform]
      exact checkout lending
  | giveBack face =>
      rw [perform]
      exact giveBack lending face
  | panic faces =>
      rw [perform]
      induction faces generalizing lending with
      | nil => exact refl lending
      | cons face rest ih => exact trans (giveBack lending face) (ih _)
  | draw drawing meanwhile each =>
      exact draw lending drawing meanwhile (amid_related refl trans each lending drawing)
  | change service => exact change lending service

end Related

/-- After an event the same drawings are in progress as before it. -/
theorem drawing_perform (event : Event) (lending : Lending) :
    (lending.perform event).drawing = lending.drawing := by
  refine @perform_related (fun before after => after.drawing = before.drawing) (fun _ => rfl)
    (fun first second => second.trans first) (fun _ => rfl) (fun lending face => ?_)
    (fun lending drawing meanwhile within => ?_) (fun lending service => ?_) event lending
  · rw [giveBack]
    split <;> rfl
  · rw [perform_draw]
    exact congrArg List.tail within
  · rw [perform]

theorem drawing_performAll (lending : Lending) (events : List Event) :
    (lending.performAll events).drawing = lending.drawing :=
  @performAll_related (fun before after => after.drawing = before.drawing) (fun _ => rfl)
    (fun first second => second.trans first) events (fun event _ => drawing_perform event) lending

/-- While a drawing is in progress its face is the innermost. -/
theorem drawing_amid (lending : Lending) (drawing : Drawing) (meanwhile : List Event) :
    (lending.amid drawing meanwhile).drawing = lending.pool.checkout.1 :: lending.drawing :=
  @amid_related (fun before after => after.drawing = before.drawing) (fun _ => rfl)
    (fun first second => second.trans first) meanwhile (fun event _ => drawing_perform event)
    lending drawing

/-! ## All moments -/

/-- The moments up to now are a course of the pool, and the last of them is the present. -/
structure Recorded (lending : Lending) : Prop where
  course : FacePool.Course lending.moments
  present : lending.moments.head? = some lending.now

namespace Recorded

variable {lending after : Lending}

theorem start (service : Service) : (Lending.start service).Recorded :=
  ⟨.start, rfl⟩

theorem noted (recorded : lending.Recorded) (leads : lending.now.Leads after.now)
    (same : after.moments = lending.moments) : after.noted.Recorded := by
  rcases List.head?_eq_some_iff.mp recorded.present with ⟨earlier, moments⟩
  refine ⟨?_, rfl⟩
  have course := recorded.course
  rw [moments] at course
  show FacePool.Course (after.now :: after.moments)
  rw [same, moments]
  exact course.next leads

theorem checkout (recorded : lending.Recorded) : lending.checkout.Recorded :=
  recorded.noted (.taken (List.Perm.refl _)) rfl

theorem giveBack (recorded : lending.Recorded) (face : Nat) : (lending.giveBack face).Recorded := by
  rw [Lending.giveBack]
  split
  case isTrue member =>
    exact recorded.noted (.returned ((List.perm_cons_erase member).append_right _)) rfl
  case isFalse => exact recorded

theorem begun (recorded : lending.Recorded) : lending.begun.Recorded :=
  recorded.noted (.taken List.perm_middle) rfl

/-- The end of a drawing returns the face that it has held from its beginning. -/
theorem ended (recorded : lending.Recorded) {face : Nat} {outer : List Nat}
    (holds : lending.drawing = face :: outer) :
    (lending.withPool (lending.pool.giveBack face)).ended.Recorded := by
  have returned : lending.held.Perm (face :: (lending.hands ++ lending.drawing.tail)) := by
    rw [held, holds]
    exact List.perm_middle
  exact recorded.noted (.returned returned) rfl

theorem perform (recorded : lending.Recorded) (event : Event) :
    (lending.perform event).Recorded := by
  refine @perform_related (fun before after => before.Recorded → after.Recorded) (fun _ => id)
    (fun first second => second ∘ first) (fun _ => checkout) (fun _ face recorded => ?_)
    (fun lending drawing meanwhile within recorded => ?_) (fun lending service recorded => ?_)
    event lending recorded
  · exact recorded.giveBack face
  · rw [perform_draw]
    exact (within recorded.begun).ended (lending.drawing_amid drawing meanwhile)
  · rw [Lending.perform]
    exact ⟨recorded.course, recorded.present⟩

theorem performAll (recorded : lending.Recorded) (events : List Event) :
    (lending.performAll events).Recorded :=
  @performAll_related (fun before after => before.Recorded → after.Recorded) (fun _ => id)
    (fun first second => second ∘ first) events (fun event _ _ recorded => recorded.perform event)
    lending recorded

end Recorded

/-! ## Drawings within drawings -/

/-- Nothing but whole drawings happens to the faces. -/
inductive Event.Settled : Event → Prop where
  | draw (drawing : Drawing) {meanwhile : List Event} :
      (∀ event ∈ meanwhile, Settled event) → Settled (.draw drawing meanwhile)
  | change (service : Service) : Settled (.change service)

/-- The same faces are held directly, and all that were idle are so again. -/
structure Restored (before after : Lending) : Prop where
  hands : after.hands = before.hands
  pool : FacePool.Regained before.pool after.pool

namespace Restored

variable {first second third : Lending}

theorem refl (lending : Lending) : Restored lending lending :=
  ⟨rfl, .refl _⟩

theorem trans (before : Restored first second) (after : Restored second third) :
    Restored first third :=
  ⟨after.hands.trans before.hands, before.pool.trans after.pool⟩

theorem of_settled {event : Event} (settled : event.Settled) (lending : Lending) :
    Restored lending (lending.perform event) := by
  induction settled generalizing lending with
  | draw drawing _ each =>
      have within := amid_related refl trans each lending drawing
      rw [perform_draw]
      exact ⟨within.hands, within.pool.giveBack⟩
  | change service => exact ⟨rfl, .refl _⟩

end Restored

/--
Whatever happens to the faces of a service that has built none: at every moment up to now each
face that was built is idle or held, and not both, as many were built as were ever held at one
time, and one is built only when none is idle.  Whatever happens in the middle of a drawing, and
however it ends, it returns the face that it took, and no other one; if nothing but whole
drawings happens in the middle, all faces that were idle are so again, with those that were
built.
-/
theorem faces_accounted (service : Service) (events : List Event) :
    let lending := (start service).performAll events
    (lending.moments.head? = some lending.now ∧ lending.drawing = [] ∧
      ∀ later moment earlier, lending.moments = later ++ moment :: earlier →
        (moment.pool.idle.length + moment.held.length = moment.pool.built ∧
          (moment.pool.idle ++ moment.held).Perm (List.range moment.pool.built)) ∧
        moment.pool.built = FacePool.mostHeld (moment :: earlier) ∧
        ∀ previous ∈ earlier.head?, moment.pool.built = previous.pool.built ∨
          (previous.pool.idle = [] ∧ moment.pool.built = previous.pool.built + 1)) ∧
    ∀ (before : Lending) (drawing : Drawing) (meanwhile : List Event),
      let amid := before.amid drawing meanwhile
      let after := before.perform (.draw drawing meanwhile)
      after.pool = ⟨before.pool.checkout.1 :: amid.pool.idle, amid.pool.built⟩ ∧
      after.hands = amid.hands ∧
      after.drawing = before.drawing ∧
      ((∀ event ∈ meanwhile, event.Settled) →
        after.hands = before.hands ∧
        ∃ count, after.pool.built = before.pool.built + count ∧
          after.pool.idle.Perm (before.pool.idle ++ List.range' before.pool.built count)) := by
  intro lending
  have recorded : lending.Recorded := (Recorded.start service).performAll events
  refine ⟨⟨recorded.present, (start service).drawing_performAll events,
    fun later moment earlier split => ?_⟩, fun before drawing meanwhile => ?_⟩
  · have course := recorded.course
    rw [split] at course
    exact course.at_moment
  · intro amid after
    have drawn : after = (amid.withPool (amid.pool.giveBack before.pool.checkout.1)).ended :=
      before.perform_draw drawing meanwhile
    refine ⟨by rw [drawn]; rfl, by rw [drawn]; rfl, drawing_perform _ before, fun settled => ?_⟩
    have restored := Restored.of_settled (.draw drawing settled) before
    exact ⟨restored.hands, restored.pool⟩

/-- One drawing in the middle of another, and behind it a face that is taken and kept. -/
example :
    let face : Face := ⟨fun _ => 0, fun _ _ => 0, fun _ => 0, fun _ _ _ _ => .ok []⟩
    let service := Service.start ⟨some face, ⟨0, ∅⟩, none, .webp, ⟨fun _ _ => none⟩⟩ .standard
      .standard 1700000000 ⟨0⟩ .inMemory
    let lending := (start service).performAll
      [.draw (.notice .narrow "a") [.draw (.notice .wide "b") [], .checkout]]
    (lending.pool, lending.held) = (⟨[0], 2⟩, [1]) :=
  rfl

end Lending

end FrameChat
