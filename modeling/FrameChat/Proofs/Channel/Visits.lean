import FrameChat.Proofs.Channel.Turns

/-!
# Visits

People come to watch, leave, write, or have the channel drawn again.  Each of
these requests is a few turns one after the other (`Course.answering`), and if
none comes between them there are few ways in which a request goes: `Answered`
lists them, with what becomes of the reception and what is recorded in the log.
-/

namespace FrameChat.Channel

/-! ## Requests -/

inductive Request where
  | join (identity : String) (viewport : Viewport) (address : Net.Address)
  | leave (session : Nat)
  | write (author text : String)
  | refresh

/-- What a request meets: what the clocks show, and what becomes of drawing. -/
structure Circumstances where
  now : Seconds
  instant : Nat
  drawn : PerViewport (Option Rendering)
  renderMs : Nat

/-- The message that an action adds to the log, with its number and time. -/
def recordedBy (channel : Channel) : Action → Option Message
  | .record now message => (channel.record now message).1
  | _ => none

namespace Course

def redraw (course : Course) (circumstances : Circumstances) : List Action :=
  [.snapshot circumstances.instant,
    .publish course.drawing.length circumstances.drawn circumstances.renderMs]

/-- The turns that a request takes. -/
def answering (course : Course) (circumstances : Circumstances) : Request → List Action
  | .join identity viewport address =>
      match (course.channel.enter identity viewport address).1 with
      | .closed | .rejected => []
      | .entered _ true => .enter identity viewport address :: course.redraw circumstances
      | .entered _ false =>
          .enter identity viewport address ::
            .record circumstances.now (Message.presence identity .join) ::
              course.redraw circumstances
  | .leave session =>
      match course.channel.roster.viewer? session with
      | none => []
      | some viewer =>
          .remove session :: .closeMailbox session ::
            .record circumstances.now (Message.presence viewer.identity .leave) ::
              course.redraw circumstances
  | .write author text => [.record circumstances.now (Message.written author text)]
  | .refresh => course.redraw circumstances

def answer (course : Course) (visit : Request × Circumstances) : Course :=
  course.turns (course.answering visit.2 visit.1)

def answers (course : Course) (visits : List (Request × Circumstances)) : Course :=
  visits.foldl answer course

/-- The messages that turns add to the log. -/
def recorded (course : Course) : List Action → List Message
  | [] => []
  | action :: rest =>
      (course.channel.recordedBy action).toList ++ (course.turn action).recorded rest

/-- The messages that visits add to the log. -/
def noted (course : Course) : List (Request × Circumstances) → List Message
  | [] => []
  | visit :: rest =>
      course.recorded (course.answering visit.2 visit.1) ++ (course.answer visit).noted rest

variable {course : Course}

/-! ## Turns of requests -/

/-- What is told of a channel apart from its pictures and mailboxes. -/
structure Keeps (before after : Channel) : Prop where
  ledger : after.ledger = before.ledger
  reception : after.reception = before.reception

theorem keeps_publish
    (course : Course)
    (pick : Nat)
    (drawn : PerViewport (Option Rendering))
    (renderMs : Nat) :
    Keeps course.channel (course.step (.publish pick drawn renderMs)).channel := by
  cases picked : course.drawing[pick]? with
  | none =>
      rw [step, picked]
      exact ⟨rfl, rfl⟩
  | some version =>
      rw [channel_step_publish picked]
      exact ⟨ledger_publish _ _ _ _, reception_publish _ _ _ _⟩

theorem keeps_redraw (course : Course) (circumstances : Circumstances) (pick : Nat) :
    Keeps course.channel
      (course.turns [.snapshot circumstances.instant,
        .publish pick circumstances.drawn circumstances.renderMs]).channel := by
  have kept := keeps_publish (course.step (.snapshot circumstances.instant)) pick
    circumstances.drawn circumstances.renderMs
  exact ⟨kept.ledger, kept.reception⟩

theorem keeps_closeMailbox (course : Course) (session : Nat) :
    Keeps course.channel (course.turn (.closeMailbox session)).channel := by
  apply holds_turn fun after => Keeps course.channel after.channel
  · exact ⟨rfl, rfl⟩
  · exact ⟨rfl, rfl⟩

theorem channel_step_enter
    (course : Course)
    (identity : String)
    (viewport : Viewport)
    (address : Net.Address) :
    (course.step (.enter identity viewport address)).channel =
      (course.channel.enter identity viewport address).2 := by
  rw [step]
  split
  case h_1 outcome => rw [outcome]
  case h_2 outcome => rw [outcome]

/-- The ways in which requests go, with what becomes of the reception and what is recorded. -/
inductive Answered (channel : Channel) : Request → Reception → List Message → Prop where
  | rejected {identity : String} {viewport : Viewport} {address : Net.Address}
      {viewer : Viewer} :
      channel.roster.ofIdentity identity = [viewer] → viewer.address ≠ address →
        Answered channel (.join identity viewport address) channel.reception []
  | displacing {identity : String} {viewport : Viewport} {address : Net.Address}
      {viewer : Viewer} :
      channel.roster.ofIdentity identity = [viewer] → viewer.address = address →
        Answered channel (.join identity viewport address)
          ((channel.reception.dismiss viewer.session).welcome identity viewport address) []
  | came {identity : String} {viewport : Viewport} {address : Net.Address}
      {numbered : Message} :
      channel.roster.ofIdentity identity = [] →
        channel.ledger.Numbers (.presence identity .join) numbered →
        Answered channel (.join identity viewport address)
          (channel.reception.welcome identity viewport address) [numbered]
  | ignored {session : Nat} :
      channel.roster.viewer? session = none →
        Answered channel (.leave session) channel.reception []
  | left {session : Nat} {viewer : Viewer} {numbered : Message} :
      channel.roster.viewer? session = some viewer →
        channel.ledger.Numbers (.presence viewer.identity .leave) numbered →
        Answered channel (.leave session) (channel.reception.dismiss session) [numbered]
  | written {author text : String} {numbered : Message} :
      channel.ledger.Numbers (.written author text) numbered →
        Answered channel (.write author text) channel.reception [numbered]
  | drawn : Answered channel .refresh channel.reception []

/-- Nothing is recorded if somebody joins whose identity is on the roster. -/
theorem Answered.silent
    {channel : Channel}
    {identity : String}
    {viewport : Viewport}
    {address : Net.Address}
    {after : Reception}
    {messages : List Message}
    (answered : Answered channel (.join identity viewport address) after messages)
    (present : channel.roster.ofIdentity identity ≠ []) :
    messages = [] := by
  cases answered with
  | rejected _ _ => rfl
  | displacing _ _ => rfl
  | came none _ => exact absurd none present

theorem Answered.of_displacing
    {channel : Channel}
    {identity : String}
    {viewport : Viewport}
    {address : Net.Address}
    {viewer : Viewer}
    {after : Reception}
    {messages : List Message}
    (answered : Answered channel (.join identity viewport address) after messages)
    (alone : channel.roster.ofIdentity identity = [viewer])
    (here : viewer.address = address) :
    after = (channel.reception.dismiss viewer.session).welcome identity viewport address := by
  cases answered with
  | rejected other elsewhere =>
      cases alone.symm.trans other
      exact absurd here elsewhere
  | displacing other _ =>
      cases alone.symm.trans other
      rfl
  | came none _ => exact nomatch alone.symm.trans none

theorem Answered.of_absent
    {channel : Channel}
    {identity : String}
    {viewport : Viewport}
    {address : Net.Address}
    {after : Reception}
    {messages : List Message}
    (answered : Answered channel (.join identity viewport address) after messages)
    (absent : channel.roster.ofIdentity identity = []) :
    after = channel.reception.welcome identity viewport address ∧
      ∃ numbered, messages = [numbered] ∧
        channel.ledger.Numbers (.presence identity .join) numbered := by
  cases answered with
  | rejected other _ => exact nomatch absent.symm.trans other
  | displacing other _ => exact nomatch absent.symm.trans other
  | came _ numbers => exact ⟨rfl, _, rfl, numbers⟩

/-- A message is recorded, and then the channel is drawn again. -/
theorem record_redraw
    {before : Channel}
    (sameLedger : course.channel.ledger = before.ledger)
    (isOpen : before.closed = false)
    (message : Message)
    (circumstances : Circumstances)
    (pick : Nat) :
    let turns : List Action :=
      [.record circumstances.now message, .snapshot circumstances.instant,
        .publish pick circumstances.drawn circumstances.renderMs]
    ∃ numbered, before.ledger.Numbers message numbered ∧ course.recorded turns = [numbered] ∧
      (course.turns turns).channel.ledger = before.ledger.add numbered ∧
      (course.turns turns).channel.reception = course.channel.reception := by
  intro turns
  have stillOpen : course.channel.closed = false :=
    (congrArg Ledger.closed sameLedger).trans isOpen
  rcases record_of_open stillOpen circumstances.now message with
    ⟨numbered, recorded, -, numbers, added⟩
  have kept := keeps_redraw (course.step (.record circumstances.now message)) circumstances pick
  rw [sameLedger] at numbers added
  refine ⟨numbered, numbers, ?_, kept.ledger.trans added, ?_⟩
  · show (course.channel.record circumstances.now message).1.toList ++ [] = _
    rw [recorded]
    rfl
  · exact kept.reception.trans (reception_record course.channel circumstances.now message)

/-- What a request does and records on an open channel. -/
structure Answer (course : Course) (request : Request) (turns : List Action) : Prop where
  answered : Answered course.channel request (course.turns turns).channel.reception
    (course.recorded turns)
  ledger : (course.turns turns).channel.ledger =
    (course.recorded turns).foldl Ledger.add course.channel.ledger

theorem answer_join
    (inOrder : course.channel.reception.InOrder)
    (isOpen : course.channel.closed = false)
    (circumstances : Circumstances)
    (identity : String)
    (viewport : Viewport)
    (address : Net.Address) :
    Answer course (.join identity viewport address)
      (course.answering circumstances (.join identity viewport address)) := by
  have entering := channel_step_enter course identity viewport address
  rw [answering]
  cases outcome : course.channel.enter identity viewport address with
  | mk entry after =>
      rw [outcome] at entering
      have sameLedger : after.ledger = course.channel.ledger := by
        have same := ledger_enter course.channel identity viewport address
        rw [outcome] at same
        exact same
      cases admission_of_enter inOrder outcome with
      | closed closed => exact nomatch isOpen.symm.trans closed
      | rejected _ alone elsewhere => exact ⟨.rejected alone elsewhere, rfl⟩
      | displacing _ alone here =>
          have kept := keeps_redraw (course.step (.enter identity viewport address))
            circumstances course.drawing.length
          rw [entering] at kept
          have reception : (course.turns (.enter identity viewport address ::
              course.redraw circumstances)).channel.reception = _ := kept.reception
          constructor
          · rw [reception]
            exact .displacing alone here
          · exact kept.ledger.trans sameLedger
      | fresh _ none =>
          rcases record_redraw ((congrArg ledger entering).trans sameLedger) isOpen
              (.presence identity .join) circumstances course.drawing.length with
            ⟨numbered, numbers, recorded, added, reception⟩
          rw [entering] at reception
          have note : course.recorded (.enter identity viewport address ::
              .record circumstances.now (Message.presence identity .join) ::
                course.redraw circumstances) = [numbered] := recorded
          have same : (course.turns (.enter identity viewport address ::
              .record circumstances.now (Message.presence identity .join) ::
                course.redraw circumstances)).channel.reception = _ := reception
          constructor
          · rw [note, same]
            exact .came none numbers
          · rw [note]
            exact added

theorem answer_leave
    (isOpen : course.channel.closed = false)
    (circumstances : Circumstances)
    (session : Nat) :
    Answer course (.leave session) (course.answering circumstances (.leave session)) := by
  rw [answering]
  cases found : course.channel.roster.viewer? session with
  | none => exact ⟨.ignored found, rfl⟩
  | some viewer =>
      have shut := keeps_closeMailbox (course.step (.remove session)) session
      have removed := shut.reception.trans (reception_remove course.channel session)
      have sameLedger := shut.ledger.trans (ledger_remove course.channel session)
      rcases record_redraw sameLedger isOpen (.presence viewer.identity .leave) circumstances
          course.drawing.length with
        ⟨numbered, numbers, recorded, added, reception⟩
      rw [removed] at reception
      have note : course.recorded (.remove session :: .closeMailbox session ::
          .record circumstances.now (Message.presence viewer.identity .leave) ::
            course.redraw circumstances) = [numbered] := recorded
      have same : (course.turns (.remove session :: .closeMailbox session ::
          .record circumstances.now (Message.presence viewer.identity .leave) ::
            course.redraw circumstances)).channel.reception = _ := reception
      constructor
      · rw [note, same]
        exact .left found numbers
      · rw [note]
        exact added

theorem answer_answering
    (inOrder : course.channel.reception.InOrder)
    (isOpen : course.channel.closed = false)
    (circumstances : Circumstances)
    (request : Request) :
    Answer course request (course.answering circumstances request) := by
  cases request with
  | join identity viewport address =>
      exact answer_join inOrder isOpen circumstances identity viewport address
  | leave session => exact answer_leave isOpen circumstances session
  | write author text =>
      rcases record_of_open isOpen circumstances.now (.written author text) with
        ⟨numbered, recorded, -, numbers, added⟩
      have note : course.recorded [.record circumstances.now (.written author text)] =
          [numbered] := by
        show (course.channel.record circumstances.now (.written author text)).1.toList ++ [] = _
        rw [recorded]
        rfl
      have same : (course.turns [.record circumstances.now
          (.written author text)]).channel.reception = course.channel.reception :=
        reception_record course.channel circumstances.now (.written author text)
      constructor
      · rw [answering, note, same]
        exact .written numbers
      · rw [answering, note]
        exact added
  | refresh =>
      have kept := keeps_redraw course circumstances course.drawing.length
      constructor
      · rw [answering, redraw, kept.reception]
        exact .drawn
      · exact kept.ledger

end Course

end FrameChat.Channel
