import FrameChat.Proofs.Operation.Clocks
import FrameChat.Proofs.Service.Orderly
import FrameChat.Proofs.Service.Outcomes
import FrameChat.Web.Routes

/-!
# What requests come to

A request for a place is answered there.  There is one lemma for each place that says all
that can come of a request, by the name and the identity that it states: who opens a stream
is on the roster of the channel that is listed under the name (`ends_stream`); a token is
issued for the identity at the address (`ends_token`); a submission passes its checks one
after the other (`ends_send`); and a link is looked up (`ends_link`).  A submission may also
fail, but only while the clock may, and only before or after all that it writes.

A server may have any number of requests under way, and serve streams and fire timers
between their steps.  Whatever it comes to so is in order (`Running.orderly`).
-/

namespace FrameChat

/-- An operation whose value is only returned. -/
theorem Operation.bind_pure {σ α : Type} (operation : Operation σ α) :
    operation >>= pure = operation := by
  show operation.bind .done = operation
  induction operation with
  | done value => rfl
  | abandoned fault => rfl
  | step act next ih => exact congrArg (Operation.step act) (funext ih)
  | clock next ih => exact congrArg Operation.clock (funext ih)
  | drawing sheet next ih => exact congrArg (Operation.drawing sheet) (funext ih)

namespace Web

open Operation Service

/-- What is read of the fields of a request for a place. -/
def Request.read (request : Request) : Route → Except FormFault Fields
  | .stream =>
      Form.read [⟨"name", .text⟩, ⟨"screen", .count⟩, ⟨"uid", .text⟩] ["name"] request.query
  | .token => Form.read [⟨"uid", .text⟩] [] request.query
  | .send =>
      Form.read [⟨"name", .text⟩, ⟨"uid", .text⟩, ⟨"text", .text⟩, ⟨"token", .text⟩] ["name"]
        request.body
  | .link .. => Form.read [⟨"screen", .count⟩] [] request.query
  | .recent => .ok []

/-- A request for a place, made as the place wants it, with fields that can be read. -/
structure Request.Asks (request : Request) (route : Route) (fields : Fields) : Prop where
  method : request.method = route.method
  path : Route.ofPath? request.path = some route
  form : route = .send → hasForm request = true
  read : request.read route = .ok fields

/-- The name of a channel, as it is stated. -/
def rawName (fields : Fields) : String :=
  (fields.lookup "name").getD ""

/-- The width of a screen, as it is stated. -/
def viewportOf (fields : Fields) : Viewport :=
  Viewport.ofScreen (Form.count fields "screen")

variable {request : Request} {route : Route} {fields : Fields} {limits : Intake.Limits}
  {key : Bytes} {before after : Service} {response : Response} {shows : Option Seconds → Prop}

theorem answer_eq (asks : request.Asks route fields) :
    answer request = answerAt request route := by
  have taken : route.takes request.method = true := by
    rw [Route.takes, asks.method]
    simp
  have whole : request.method ≠ "HEAD" := by
    rw [asks.method]
    cases route <;> exact ne_of_beq_false rfl
  rw [answer, asks.path]
  dsimp only
  rw [if_pos taken]
  simp only [if_neg whole]
  exact Operation.bind_pure _

/-- What is answered to an operation is what it came to, or that it failed. -/
theorem ends_orFailure {operation : Op Response} :
    Ends (orFailure operation) before (.ok response) after ↔
      Ends operation before (.ok response) after ∨
        response = .bare 500 ∧ ∃ fault, Ends operation before (.error fault) after := by
  constructor
  · intro ends
    rcases ends_bind.mp ends with ⟨result, middle, attempted, ends⟩
    cases result with
    | ok answered =>
        rcases ends_pure.mp ends with ⟨rfl, rfl⟩
        exact .inl (ends_attempt.mp attempted)
    | error fault =>
        rcases ends_pure.mp ends with ⟨rfl, rfl⟩
        exact .inr ⟨rfl, fault, ends_attempt.mp attempted⟩
  · rintro (ended | ⟨rfl, fault, failed⟩)
    · exact ends_bind.mpr ⟨.ok response, after, ends_attempt.mpr ended, ends_pure.mpr ⟨rfl, rfl⟩⟩
    · exact ends_bind.mpr ⟨.error fault, after, ends_attempt.mpr failed, ends_pure.mpr ⟨rfl, rfl⟩⟩

/-- What is answered while the clock shows what is allowed is what the operation came to then. -/
theorem endsWhile_orFailure {operation : Op Response}
    (ends : EndsWhile shows (orFailure operation) before (.ok response) after) :
    EndsWhile shows operation before (.ok response) after ∨
      response = .bare 500 ∧ ∃ fault, EndsWhile shows operation before (.error fault) after := by
  rcases ends.bind with ⟨fault, -, failed⟩ | ⟨result, middle, attempted, ends⟩
  · rcases failed.attempt with ⟨answer, same, -⟩
    cases same
  rcases attempted.attempt with ⟨answer, same, ended⟩
  obtain rfl := Except.ok.inj same
  cases result with
  | ok answered =>
      rcases ends.pure with ⟨same, rfl⟩
      obtain rfl := Except.ok.inj same
      exact .inl ended
  | error fault =>
      rcases ends.pure with ⟨same, rfl⟩
      obtain rfl := Except.ok.inj same
      exact .inr ⟨rfl, fault, ended⟩

/-! ## Opening a stream -/

end Web

namespace Channel

/-- Who enters finds the channel open, and is on its roster then. -/
theorem Admission.of_entered {channel after : Channel} {identity : String} {viewport : Viewport}
    {address : Net.Address} {session : Nat} {displaced : Bool}
    (admission : Admission channel identity viewport address (.entered session displaced) after)
    (inOrder : channel.reception.InOrder) :
    channel.closed = false ∧ after.closed = false ∧
      after.roster.viewer? session = some ⟨session, identity, viewport, address⟩ := by
  cases admission with
  | fresh isOpen none =>
      have listed := inOrder.viewer?_welcome identity viewport address (channel.lastSession + 1)
      exact ⟨isOpen, isOpen, listed.trans (if_pos rfl)⟩
  | @displacing viewer isOpen alone here =>
      have dismissed := inOrder.dismiss viewer.session
      have listed := dismissed.viewer?_welcome identity viewport address (channel.lastSession + 1)
      exact ⟨isOpen, isOpen, listed.trans (if_pos rfl)⟩

end Channel

namespace Service

open Operation

/-- What tells whether a channel is live, and who is on its roster. -/
def door (index : Nat) (service : Service) : Directory × Bool × Channel.Reception :=
  (service.directory, (service.channel index).closed, (service.channel index).reception)

theorem door_withChannel {α : Type} {index : Nat} {act : Channel → α × Channel}
    (closed : ∀ channel, (act channel).2.closed = channel.closed)
    (reception : ∀ channel, (act channel).2.reception = channel.reception) (service : Service) :
    door index (withChannel index act service).2 = door index service := by
  let part (channel : Channel) : Bool × Channel.Reception := (channel.closed, channel.reception)
  have same (channel : Channel) : part (act channel).2 = part channel :=
    Prod.ext (closed channel) (reception channel)
  exact congrArg (Prod.mk service.directory) (withChannel_keeps same service)

theorem keeps_door_append (index : Nat) (message : Message) :
    Keeps (door index) (append index message) := by
  refine Keeps.bind Keeps.now fun now => ?_
  refine Keeps.bind (Keeps.act fun service => ?_) fun recorded => ?_
  · exact door_withChannel (fun channel => channel.closed_touch (.record now message))
      (fun channel => channel.reception_record now message) service
  · exact keeps_persist (door index) (fun _ _ => rfl) index now recorded

theorem keeps_door_refresh (index : Nat) : Keeps (door index) (refresh index) := by
  apply keeps_refresh_of fun _ _ => rfl
  · intro service instant
    exact door_withChannel (fun _ => rfl) (fun _ => rfl) service
  · intro service version drawn renderMs
    exact door_withChannel
      (fun channel => channel.closed_touch (.publish version drawn renderMs))
      (fun channel => channel.reception_publish version drawn renderMs) service

end Service

namespace Web

open Operation Service

/-- A stream serves a session of a live channel that somebody entered. -/
structure Watches (name identity : String) (viewport : Viewport) (address : Net.Address)
    (stream : Nat) (channel session : Nat) (service : Service) : Prop where
  live : service.find? name = some channel
  entered : (service.channel channel).roster.viewer? session =
    some ⟨session, identity, viewport, address⟩
  served : service.streams[stream]? = some ⟨channel, session, false, false, []⟩

variable {name identity : String} {viewport : Viewport} {address : Net.Address}
  {request : Request} {fields : Fields} {limits : Intake.Limits} {key : Bytes}
  {before after : Service} {response : Response} {shows : Option Seconds → Prop}

theorem lookup_of_opened {chronicle next : Chronicle} {index : Nat}
    (opened : chronicle.Opened name (.ok index) next) : next.entries.lookup name = some index := by
  cases opened with
  | live found => exact (Option.filter_eq_some_iff.mp found).1
  | fresh absent given start => simp
  | surplus given start standing => exact (Option.filter_eq_some_iff.mp standing).1

theorem door_redrawn {index given session : Nat}
    (ends : Ends (do discard (refresh index); return Joined.joined given) before
      (.ok (.joined session)) after) :
    door index after = door index before ∧ session = given := by
  rcases ends.after (keeps_discard (keeps_door_refresh index)) with ⟨_, drawn, same, ends⟩
  rcases ends_pure.mp ends with ⟨joined, rfl⟩
  exact ⟨same, Joined.joined.inj joined⟩

/-- Who joins a channel finds it open, and is on its roster then. -/
theorem ends_join_joined {index session : Nat} (orderly : Orderly limits key before)
    (ends : Ends (join index identity viewport address) before (.ok (.joined session)) after) :
    after.directory = before.directory ∧ after.isClosed index = false ∧
      (after.channel index).roster.viewer? session =
        some ⟨session, identity, viewport, address⟩ := by
  replace ends := ends_act_bind.mp ends
  have inOrder : (before.channel index).reception.InOrder := (orderly.instances index).reception
  have admission := Channel.admission_enter inOrder identity viewport address
  have stored : (before.channel index).closed = false →
      (withChannel index (·.enter identity viewport address) before).2.channel index =
        ((before.channel index).enter identity viewport address).2 :=
    fun isOpen => channel_withChannel _ (House.lt_size_of_open isOpen)
  have directory : (withChannel index (·.enter identity viewport address) before).2.directory =
      before.directory := rfl
  have answer : (withChannel index (·.enter identity viewport address) before).1 =
      ((before.channel index).enter identity viewport address).1 := rfl
  generalize (withChannel index (·.enter identity viewport address) before).2 = met
    at ends stored directory
  rw [answer] at ends
  generalize ((before.channel index).enter identity viewport address).1 = entry
    at ends admission
  cases entry with
  | closed => cases (ends_pure.mp ends).1
  | rejected =>
      rcases ends_bind.mp ends with ⟨notice, _, -, ends⟩
      cases (ends_pure.mp ends).1
  | entered given displaced =>
      rcases admission.of_entered inOrder with ⟨wasOpen, isOpen, listed⟩
      have still : door index after = door index met ∧ session = given := by
        cases displaced with
        | true => exact door_redrawn ends
        | false =>
            rcases ends.after (keeps_discard (keeps_door_append index _)) with
              ⟨_, announced, same, ends⟩
            rcases door_redrawn ends with ⟨drawn, joined⟩
            exact ⟨drawn.trans same, joined⟩
      rcases still with ⟨same, rfl⟩
      rcases Prod.mk.inj same with ⟨sameDirectory, rest⟩
      rcases Prod.mk.inj rest with ⟨sameClosed, sameReception⟩
      have sameRoster := congrArg Channel.Reception.roster sameReception
      rw [stored wasOpen] at sameClosed sameRoster
      refine ⟨sameDirectory.trans directory, sameClosed.trans isOpen, ?_⟩
      rw [show (after.channel index).roster = _ from sameRoster]
      exact listed

/-- Whoever opens a stream joins the channel that is listed under the name. -/
theorem ends_joinOpened {tries stream : Nat} (orderly : Orderly limits key before)
    (clean : Intake.cleanName name limits.maxNameChars = name)
    (ends : Ends (joinOpened name identity viewport address tries) before (.ok response) after)
    (streams : response.body = .stream stream) :
    ∃ channel session, Watches name identity viewport address stream channel session after := by
  induction tries generalizing before with
  | zero =>
      rcases ends_pure.mp ends with ⟨rfl, -⟩
      cases streams
  | succ tries ih =>
      rcases ends_bind.mp ends with ⟨answer, opened, opening, ends⟩
      have orderlyOpened := (opening.upheld (upholds_openChannel clean) orderly).1
      cases answer with
      | error fault =>
          rcases ends_pure.mp ends with ⟨rfl, -⟩
          cases streams
      | ok channel =>
          have listed := lookup_of_opened (ends_openChannel opening)
          rcases ends_bind.mp ends with ⟨joined, met, joining, ends⟩
          have orderlyMet :=
            (joining.upheld (upholds_join channel identity viewport address) orderlyOpened).1
          cases joined with
          | closed => exact ih orderlyMet ends
          | rejected notice =>
              rcases ends_pure.mp ends with ⟨rfl, -⟩
              cases streams
          | joined session =>
              rcases ends_join_joined orderlyOpened joining with ⟨directory, isOpen, entered⟩
              replace ends := ends_act_bind.mp ends
              rcases ends_pure.mp ends with ⟨rfl, rfl⟩
              obtain rfl := Body.stream.inj streams
              refine ⟨channel, session, ?_, entered, by simp⟩
              have found : met.find? name = some channel := by
                rw [Service.find?, Directory.find?, directory]
                have there : opened.directory.entries.lookup name = some channel := listed
                rw [there, Option.filter_some, isOpen]
                rfl
              exact found

theorem stream_eq (asks : request.Asks .stream fields) :
    stream request = (do
      let intake ← Operation.ask Service.intake
      orFailure (joinOpened (intake.channelName (rawName fields))
        (intake.resolvedIdentity (fields.lookup "uid") request.peer) (viewportOf fields)
        request.peer 2)) := by
  have read : Form.read [⟨"name", .text⟩, ⟨"screen", .count⟩, ⟨"uid", .text⟩] ["name"]
      request.query = .ok fields := asks.read
  rw [stream, read]
  rfl

/-- A request for a stream joins the channel of the clean name under the identity. -/
theorem ends_answer_stream (asks : request.Asks .stream fields)
    (sameLimits : before.intake.limits = limits) :
    Ends (answer request) before (.ok response) after ↔
      Ends (orFailure (joinOpened (Intake.cleanName (rawName fields) limits.maxNameChars)
        (limits.identityOf (fields.lookup "uid") request.peer) (viewportOf fields) request.peer 2))
        before (.ok response) after := by
  rw [answer_eq asks, answerAt, stream_eq asks, ← sameLimits]
  exact ends_ask_bind

/-- A stream that is opened serves somebody under the identity, in the channel of the clean name. -/
theorem ends_stream {stream : Nat} (orderly : Orderly limits key before)
    (asks : request.Asks .stream fields)
    (ends : Ends (answer request) before (.ok response) after)
    (streams : response.body = .stream stream) :
    ∃ channel session,
      Watches (Intake.cleanName (rawName fields) limits.maxNameChars)
        (limits.identityOf (fields.lookup "uid") request.peer) (viewportOf fields) request.peer
        stream channel session after := by
  rw [ends_answer_stream asks orderly.sameLimits, ends_orFailure] at ends
  rcases ends with opened | ⟨rfl, -⟩
  · exact ends_joinOpened orderly (Intake.cleanName_cleanName _ _) opened streams
  · cases streams

/-! ## Issuing a token -/

theorem ends_randomBytes {count : Nat} {bytes : Bytes}
    (ends : Ends (randomBytes count) before (.ok bytes) after) :
    bytes.length = count ∧ after.intake = before.intake := by
  rcases ends_act.mp ends with ⟨rfl, rfl⟩
  exact ⟨Entropy.length_bytes count before.entropy, rfl⟩

theorem ends_answer_token (asks : request.Asks .token fields)
    (sameLimits : before.intake.limits = limits) :
    Ends (answer request) before (.ok response) after ↔
      ∃ token, Ends (issueToken (limits.identityOf (fields.lookup "uid") request.peer)
          request.peer) before (.ok token) after ∧
        response = .plain 200 token := by
  have read : Form.read [⟨"uid", .text⟩] [] request.query = .ok fields := asks.read
  rw [answer_eq asks, answerAt, token, read, ← sameLimits, ← Intake.resolvedIdentity_eq]
  refine (ends_ask_bind.trans ends_bind).trans ?_
  constructor
  · rintro ⟨text, middle, issued, ends⟩
    rcases ends_pure.mp ends with ⟨rfl, rfl⟩
    exact ⟨text, issued, rfl⟩
  · rintro ⟨text, issued, rfl⟩
    exact ⟨text, after, issued, ends_pure.mpr ⟨rfl, rfl⟩⟩

/-- A token is issued for the stated identity as the intake has it. -/
theorem ends_issueToken {stated text : String}
    (ends : Ends (issueToken stated address) before (.ok text) after) :
    ∃ nonce now, nonce.length = Cipher.Seal.nonceLength ∧
      text = (before.intake.guard.issue
        (Intake.binding (before.intake.identity stated) address)
        (Intake.tokenSeconds now) nonce).1 := by
  rcases ends_bind.mp ends with ⟨nonce, drawn, drawing, ends⟩
  rcases ends_randomBytes drawing with ⟨length, same⟩
  rcases ends_now_bind.mp ends with ⟨now, ends⟩
  refine ⟨nonce, now, length, ?_⟩
  rw [(ends_act.mp ends).1, same]

/-! ## Submitting a message -/

/-- A text is accepted as a token, or none is required. -/
def Granted (limits : Intake.Limits) (guard : Token.Guard) (token binding : String) : Prop :=
  limits.requireToken = true →
    ∃ now, (guard.validate token binding (Intake.tokenSeconds now)).1 = .ok ()

/-- What is replied to a submission, by what came of appending its message. -/
def postReply : Except AppendFault Message → Except Refused Accepted
  | .ok numbered => .ok (.posted numbered)
  | .error (.archive fault) => .error (.archive fault)
  | .error .closed => .ok .dropped

/-- What is answered to a submission, also if it was abandoned. -/
def responseTo : Except Operation.Fault (Except Refused Accepted) → Response
  | .ok reply => submissionResponse reply
  | .error _ => .bare 500

/--
What comes of a submission to the channel under a name, by an identity at an address, while the
clock shows what is allowed: it is held up or refused, there is no such channel or nothing to
say, and all histories stay as they are; or a message of the identity is appended to the
channel, and nothing else is written.
-/
inductive Submits (shows : Option Seconds → Prop) (limits : Intake.Limits)
    (name identity text token : String) (address : Net.Address) (before : Service) :
    Response → Service → Prop where
  /-- the clock could not be read, and nothing was written -/
  | failed {after : Service} :
      shows none → after.chronicle = before.chronicle →
        Submits shows limits name identity text token address before (.bare 500) after
  | waits {after : Service} :
      (before.intake.pass address before.uptime).1 = false →
        after.chronicle = before.chronicle →
        Submits shows limits name identity text token address before
          (submissionResponse (.error .coolingDown)) after
  | refused {after : Service} (now : Seconds) {refusal : Token.Refusal} :
      limits.requireToken = true →
        (before.intake.guard.validate token (Intake.binding identity address)
          (Intake.tokenSeconds now)).1 = .error refusal →
        after.chronicle = before.chronicle →
        Submits shows limits name identity text token address before
          (submissionResponse (.error (.token refusal))) after
  | dropped {after : Service} :
      Granted limits before.intake.guard token (Intake.binding identity address) →
        before.find? name = none → after.chronicle = before.chronicle →
        Submits shows limits name identity text token address before inactive after
  | ignored {after : Service} {channel : Nat} :
      Granted limits before.intake.guard token (Intake.binding identity address) →
        before.find? name = some channel → Text.allBlank text = true →
        after.chronicle = before.chronicle →
        Submits shows limits name identity text token address before (.bare 204) after
  | posted {after : Service} {channel : Nat} {answer : Except AppendFault Message} :
      Granted limits before.intake.guard token (Intake.binding identity address) →
        before.find? name = some channel → Text.allBlank text = false →
        Chronicle.Appended channel (.written identity text) before.chronicle answer
          after.chronicle →
        Submits shows limits name identity text token address before
          (submissionResponse (postReply answer)) after
  /-- the message was appended, and the clock could not be read to draw the channel again -/
  | undrawn {after : Service} {channel : Nat} {answer : Except AppendFault Message} :
      shows none →
        Granted limits before.intake.guard token (Intake.binding identity address) →
        before.find? name = some channel → Text.allBlank text = false →
        Chronicle.Appended channel (.written identity text) before.chronicle answer
          after.chronicle →
        answer ≠ .error .closed →
        Submits shows limits name identity text token address before (.bare 500) after

/-- The text that is left of what a submission says. -/
def cleanText (limits : Intake.Limits) (fields : Fields) : String :=
  Intake.cleanMessage ((fields.lookup "text").getD "") limits.maxMessageBytes
    limits.maxMessageLines

/-- The token that a submission presents. -/
def presented (fields : Fields) : String :=
  (fields.lookup "token").getD ""

theorem send_eq (asks : request.Asks .send fields) :
    send request = (do
      let intake ← Operation.ask Service.intake
      orFailure do
        return submissionResponse (← submit (submissionOf intake request fields))) := by
  have read : Form.read [⟨"name", .text⟩, ⟨"uid", .text⟩, ⟨"text", .text⟩, ⟨"token", .text⟩]
      ["name"] request.body = .ok fields := asks.read
  rw [send, asks.form rfl, read]
  rfl

theorem find?_of_chronicle {service other : Service} (same : service.chronicle = other.chronicle)
    (name : String) : service.find? name = other.find? name := by
  rw [← find?_chronicle, ← find?_chronicle, same]

/-- What the door of a service is to a submission: what it lets pass, and who it knows. -/
structure AtDoor (before met : Service) : Prop where
  chronicle : met.chronicle = before.chronicle
  limits : met.intake.limits = before.intake.limits

theorem ends_passAddress {passes : Bool}
    (ends : Ends (passAddress address) before (.ok passes) after) :
    passes = (before.intake.pass address before.uptime).1 ∧ AtDoor before after ∧
      after.intake.guard = before.intake.guard := by
  have kept := ends.keeps (keeps_passAddress address)
  rcases ends_act.mp ends with ⟨rfl, rfl⟩
  refine ⟨rfl, ⟨congrArg Prod.fst kept, congrArg Prod.snd kept⟩, ?_⟩
  dsimp only
  rw [Intake.pass]
  split
  · rfl
  · split <;> rfl

theorem ends_checkToken {submission : Submission} {verdict : Except Token.Refusal Unit}
    (ends : Ends (checkToken submission) before (.ok verdict) after) :
    AtDoor before after ∧
      (before.intake.limits.requireToken = true → ∃ now,
        (before.intake.guard.validate (submission.token.getD "")
          (Intake.binding (before.intake.identity submission.identity) submission.address)
          (Intake.tokenSeconds now)).1 = verdict) ∧
      (before.intake.limits.requireToken = false → verdict = .ok ()) := by
  have kept := ends.keeps (keeps_checkToken submission)
  refine ⟨⟨congrArg Prod.fst kept, congrArg Prod.snd kept⟩, ?_⟩
  replace ends := ends_ask_bind.mp ends
  cases required : before.intake.limits.requireToken with
  | true =>
      rw [if_pos required] at ends
      rcases ends_now_bind.mp ends with ⟨now, ends⟩
      rcases ends_act.mp ends with ⟨rfl, -⟩
      exact ⟨fun _ => ⟨now, rfl⟩, nofun⟩
  | false =>
      rw [required, if_neg Bool.false_ne_true] at ends
      rcases ends_pure.mp ends with ⟨rfl, -⟩
      exact ⟨nofun, fun _ => rfl⟩

theorem identity_of_limits {intake other : Intake} (same : intake.limits = other.limits)
    (raw : String) : intake.identity raw = other.identity raw := by
  rw [Intake.identity, same, Intake.identity]

/-- An append that is abandoned has written nothing. -/
theorem chronicle_of_append_failed {index : Nat} {message : Message} {fault : Operation.Fault}
    (failed : EndsWhile shows (append index message) before (.error fault) after) :
    after.chronicle = before.chronicle := by
  rcases failed.bind with ⟨fault, -, unread⟩ | ⟨now, middle, read, ends⟩
  · rw [unread.now]
  · -- Once the clock was read, all steps are taken, so that there is no fault.
    replace ends := ends.act_bind
    generalize (withChannel index (·.record now message) middle).1 = recorded at ends
    cases recorded with
    | none => cases ends.pure.1
    | some numbered =>
        dsimp only at ends
        split at ends
        · replace ends := ends.ask_bind.act_bind
          split at ends <;> cases ends.pure.1
        · cases ends.pure.1

/-- A written message is appended, unless the clock fails; and the channel is drawn again. -/
theorem ends_post_while {index : Nat} {message : Message}
    {result : Except Operation.Fault (Except Refused Accepted)}
    (ends : EndsWhile shows (post index message) before result after) :
    (responseTo result = .bare 500 ∧ shows none ∧ after.chronicle = before.chronicle) ∨
      ∃ answer, Chronicle.Appended index message before.chronicle answer after.chronicle ∧
        (result = .ok (postReply answer) ∨
          responseTo result = .bare 500 ∧ shows none ∧ answer ≠ .error .closed) := by
  rcases ends.bind with ⟨fault, rfl, failed⟩ | ⟨answer, middle, appending, ends⟩
  · exact .inl ⟨rfl, (steady_append index message).shows_none failed,
      chronicle_of_append_failed failed⟩
  · have appended := ends_append appending.ends
    have redrawn {reply : Except Refused Accepted}
        (ends : EndsWhile shows (do discard (refresh index); return reply) middle result after) :
        after.chronicle = middle.chronicle ∧
          (result = .ok reply ∨ responseTo result = .bare 500 ∧ shows none) := by
      have keeps := keeps_discard (keeps_refresh index)
      rcases ends.bind with ⟨fault, rfl, failed⟩ | ⟨_, drawn, drew, ends⟩
      · have steady := steady_discard (steady_refresh index)
        exact ⟨failed.ends.keeps keeps, .inr ⟨rfl, steady.shows_none failed⟩⟩
      · rcases ends.pure with ⟨rfl, rfl⟩
        exact ⟨drew.ends.keeps keeps, .inl rfl⟩
    refine .inr ⟨answer, ?_⟩
    cases answer with
    | ok numbered =>
        rcases redrawn ends with ⟨same, replied | ⟨failed, unread⟩⟩
        · exact ⟨same ▸ appended, .inl replied⟩
        · exact ⟨same ▸ appended, .inr ⟨failed, unread, nofun⟩⟩
    | error fault =>
        cases fault with
        | closed =>
            rcases ends.pure with ⟨rfl, rfl⟩
            exact ⟨appended, .inl rfl⟩
        | archive fault =>
            rcases redrawn ends with ⟨same, replied | ⟨failed, unread⟩⟩
            · exact ⟨same ▸ appended, .inl replied⟩
            · exact ⟨same ▸ appended, .inr ⟨failed, unread, nofun⟩⟩

/-- A submission that passed all checks is appended, unless the clock fails. -/
theorem submits_of_post {channel : Nat} {text token : String} {met : Service}
    {result : Except Operation.Fault (Except Refused Accepted)}
    (granted : Granted limits before.intake.guard token (Intake.binding identity address))
    (found : before.find? name = some channel) (visible : Text.allBlank text = false)
    (sameChronicle : met.chronicle = before.chronicle)
    (ends : EndsWhile shows (post channel (.written identity text)) met result after) :
    Submits shows limits name identity text token address before (responseTo result) after := by
  rcases ends_post_while ends with
    ⟨failed, unread, same⟩ | ⟨answer, appended, rfl | ⟨failed, unread, accepted⟩⟩
  · rw [failed]
    exact .failed unread (same.trans sameChronicle)
  · rw [sameChronicle] at appended
    exact .posted granted found visible appended
  · rw [sameChronicle] at appended
    rw [failed]
    exact .undrawn unread granted found visible appended accepted

/-- A submission goes through its checks in their order. -/
theorem submits_of_submit {submission : Submission}
    {result : Except Operation.Fault (Except Refused Accepted)}
    (ends : EndsWhile shows (submit submission) before result after) :
    Submits shows before.intake.limits (before.intake.channelName submission.channel)
      (before.intake.identity submission.identity)
      (Intake.cleanMessage submission.text before.intake.limits.maxMessageBytes
        before.intake.limits.maxMessageLines)
      (submission.token.getD "") submission.address before (responseTo result) after := by
  rcases ends.bind with ⟨fault, -, failed⟩ | ⟨passes, passed, passing, ends⟩
  · exact nomatch failed
  rcases ends_passAddress passing.ends with ⟨asked, door, guard⟩
  cases passes with
  | false =>
      rcases ends.pure with ⟨rfl, rfl⟩
      exact .waits asked.symm door.chronicle
  | true =>
      rcases ends.bind with ⟨fault, rfl, failed⟩ | ⟨verdict, checked, checking, ends⟩
      · have kept := congrArg Prod.fst (failed.ends.keeps (keeps_checkToken submission))
        exact .failed ((steady_checkToken submission).shows_none failed)
          (kept.trans door.chronicle)
      rcases ends_checkToken checking.ends with ⟨further, judged, unjudged⟩
      rw [guard, identity_of_limits door.limits, door.limits] at judged
      rw [door.limits] at unjudged
      have sameLimits := further.limits.trans door.limits
      have sameChronicle := further.chronicle.trans door.chronicle
      cases verdict with
      | error refusal =>
          rcases ends.pure with ⟨rfl, rfl⟩
          cases required : before.intake.limits.requireToken with
          | true =>
              rcases judged required with ⟨now, refused⟩
              exact .refused now required refused sameChronicle
          | false => cases unjudged required
      | ok granted =>
          replace ends := ends.ask_bind
          dsimp only [id] at ends
          rw [Intake.channelName, identity_of_limits sameLimits, sameLimits, ← Intake.channelName,
            find?_of_chronicle sameChronicle] at ends
          cases found : before.find? (before.intake.channelName submission.channel) with
          | none =>
              rw [found] at ends
              rcases ends.pure with ⟨rfl, rfl⟩
              exact .dropped judged found sameChronicle
          | some channel =>
              rw [found] at ends
              dsimp only at ends
              split at ends
              case isTrue blank =>
                rcases ends.pure with ⟨rfl, rfl⟩
                exact .ignored judged found blank sameChronicle
              case isFalse said =>
                exact submits_of_post judged found (Bool.eq_false_iff.mpr said) sameChronicle ends

theorem ends_answer_send (asks : request.Asks .send fields) :
    Ends (answer request) before (.ok response) after ↔
      Ends (orFailure do
        return submissionResponse (← submit (submissionOf before.intake request fields)))
        before (.ok response) after := by
  rw [answer_eq asks, answerAt, send_eq asks]
  exact ends_ask_bind

theorem Ends.answer_send (asks : request.Asks .send fields) {reply : Except Refused Accepted}
    (ends : Ends (submit (submissionOf before.intake request fields)) before (.ok reply) after) :
    Ends (answer request) before (.ok (submissionResponse reply)) after := by
  rw [ends_answer_send asks, ends_orFailure]
  exact .inl (ends_bind.mpr ⟨reply, after, ends, ends_pure.mpr ⟨rfl, rfl⟩⟩)

/-- A submission is made to the channel of the clean name, by the identity. -/
theorem ends_send (asks : request.Asks .send fields)
    (ends : EndsWhile shows (answer request) before (.ok response) after) :
    Submits shows before.intake.limits
      (Intake.cleanName (rawName fields) before.intake.limits.maxNameChars)
      (before.intake.identity (before.intake.limits.identityOf (fields.lookup "uid") request.peer))
      (cleanText before.intake.limits fields) (presented fields) request.peer before response
      after := by
  rw [answer_eq asks, answerAt, send_eq asks] at ends
  have answered : ∃ result, response = responseTo result ∧
      EndsWhile shows (submit (submissionOf before.intake request fields)) before result after := by
    rcases endsWhile_orFailure ends.ask_bind with submitted | ⟨rfl, fault, failed⟩
    · rcases submitted.bind with ⟨fault, same, -⟩ | ⟨reply, middle, submitting, ends⟩
      · cases same
      · rcases ends.pure with ⟨same, rfl⟩
        exact ⟨.ok reply, Except.ok.inj same, submitting⟩
    · rcases failed.bind with ⟨fault, -, unsubmitted⟩ | ⟨reply, middle, -, ends⟩
      · exact ⟨.error fault, rfl, unsubmitted⟩
      · cases ends.pure.1
  rcases answered with ⟨result, rfl, submitted⟩
  have submits := submits_of_submit submitted
  rw [Intake.channelName, submissionOf, Intake.resolvedIdentity_eq] at submits
  exact submits

/-! ## Asking for a link -/

/-- What a channel answers to a request for the link behind a badge. -/
def badgeAnswer (channel : Channel) (viewport : Viewport) (badge : String) :
    Except Operation.Fault Response :=
  match (badgeIndex? badge).bind (channel.link? viewport) with
  | some link => if isHeaderText link then .ok (.redirect link) else .error .header
  | none => .ok (.plain 404 (linkListing (channel.links.get viewport)))

theorem badgeAnswer_of_link {channel : Channel} {viewport : Viewport} {badge link : String}
    (found : (badgeIndex? badge).bind (channel.link? viewport) = some link) :
    badgeAnswer channel viewport badge =
      if isHeaderText link then .ok (.redirect link) else .error .header := by
  rw [badgeAnswer, found]

theorem ends_returned {result : Except Operation.Fault Response} :
    Ends (pure response) before result after ↔ after = before ∧ result = .ok response := by
  constructor
  · intro ends
    cases ends with
    | done => exact ⟨rfl, rfl⟩
  · rintro ⟨rfl, rfl⟩
    exact .done

theorem ends_abandoned {fault : Operation.Fault} {result : Except Operation.Fault Response} :
    Ends (Operation.abandon fault) before result after ↔
      after = before ∧ result = .error fault := by
  constructor
  · intro ends
    cases ends with
    | abandoned => exact ⟨rfl, rfl⟩
  · rintro ⟨rfl, rfl⟩
    exact .abandoned

/-- What a service answers to a request for the link behind a badge in the channel of a name. -/
def linkAnswer (service : Service) (name : String) (viewport : Viewport) (badge : String) :
    Except Operation.Fault Response :=
  match service.find? name with
  | none => .ok inactive
  | some channel => badgeAnswer (service.channel channel) viewport badge

/-- A request for a link is answered by the live channel of the name, and changes nothing. -/
theorem ends_link {segment label badge : String} {result : Except Operation.Fault Response}
    (asks : request.Asks (.link segment label) fields)
    (named : Text.Percent.segment? segment = some name)
    (labelled : Text.Percent.segment? label = some badge) :
    Ends (answer request) before result after ↔
      after = before ∧ result = linkAnswer before name (viewportOf fields) badge := by
  have read : Form.read [⟨"screen", .count⟩] [] request.query = .ok fields := asks.read
  rw [answer_eq asks, answerAt, link, named, labelled, linkAnswer]
  dsimp only
  rw [read]
  refine ends_ask_bind.trans ?_
  dsimp only [id]
  cases before.find? name with
  | none => exact ends_returned
  | some channel =>
      dsimp only
      rw [badgeAnswer, ← viewportOf]
      cases (badgeIndex? badge).bind ((before.channel channel).link? (viewportOf fields)) with
      | none => exact ends_returned
      | some link =>
          dsimp only
          split
          · exact ends_returned
          · exact ends_abandoned

/-! ## A server at work -/

/-- What a server does: it answers requests, serves streams, and lets time pass for timers. -/
inductive Task : Op Unit → Prop where
  | answer (request : Request) : Task (discard (answer request))
  | serve : Task serveAll
  | read (stream : Nat) : Task (discard (readStream stream))
  | hangUp (stream : Nat) : Task (dropStream stream)
  | sleep (milliseconds : Nat) : Task (sleep milliseconds)
  | sweep (period : Nat) : Task (startPurgeTimer period)

/-- A process has just begun: its intake has seen nothing, and no channel is live. -/
structure Begun (limits : Intake.Limits) (key : Bytes) (service : Service) : Prop where
  intake : service.intake = Intake.new limits key
  directory : service.directory = Directory.empty
  instances : AllTidy service.channels

/-- What a service may come to in a process, with what is left of the tasks that were begun. -/
abbrev Running (limits : Intake.Limits) (key : Bytes) : Service → List (Op Unit) → Prop :=
  Interleaved (Begun limits key) (fun before after => after.premises = before.premises) Task

theorem begun_start (studio : Studio) (settings : Channel.Settings) (limits : Intake.Limits)
    (clock : Seconds) (entropy : Entropy) (archive : Archive) :
    Begun limits (Entropy.bytes keyLength entropy).1
      (Service.start studio settings limits clock entropy archive) := by
  rw [Service.start]
  rcases Entropy.bytes keyLength entropy with ⟨key, rest⟩
  exact ⟨rfl, rfl, allTidy_empty⟩

/-- A service that is started again begins a process with another key. -/
theorem begun_restart (orderly : Orderly limits key before) :
    Begun limits (Entropy.bytes keyLength before.entropy).1 before.restart := by
  rw [Service.restart]
  rcases Entropy.bytes keyLength before.entropy with ⟨key, rest⟩
  exact ⟨congrArg (Intake.new · key) orderly.sameLimits, rfl, orderly.instances⟩

theorem Begun.orderly (begun : Begun limits key before) : Orderly limits key before := by
  refine ⟨?_, ?_, ?_, begun.instances⟩
  · rw [begun.intake, Intake.new]
  · rw [begun.intake, Intake.new, Token.Guard.new]
  · rw [begun.directory]
    exact nofun

theorem upholds_askIntake :
    Upholds (Orderly limits key) (fun intake => intake.limits = limits)
      (Operation.ask Service.intake) :=
  .ask fun _ orderly => orderly.sameLimits

theorem upholds_orFailure {operation : Op Response}
    (upholds : Upholds (Orderly limits key) (fun _ => True) operation) :
    Upholds (Orderly limits key) (fun _ => True) (orFailure operation) := by
  refine upholds.attempt.bind fun result _ => ?_
  cases result with
  | ok response => exact .pure trivial
  | error fault => exact .pure trivial

theorem upholds_joinOpened (clean : Intake.cleanName name limits.maxNameChars = name)
    (identity : String) (viewport : Viewport) (address : Net.Address) (tries : Nat) :
    Upholds (Orderly limits key) (fun _ => True)
      (joinOpened name identity viewport address tries) := by
  induction tries with
  | zero => exact .pure trivial
  | succ tries ih =>
      refine (upholds_openChannel clean).bind fun answer _ => ?_
      cases answer with
      | error fault => exact .pure trivial
      | ok channel =>
          refine (upholds_join channel identity viewport address).bind fun joined _ => ?_
          cases joined with
          | closed => exact ih
          | rejected notice => exact .pure trivial
          | joined session =>
              have opened : Upholds (Orderly limits key) (fun _ => True)
                  (openStream channel session) := upholds_of_keeps (Keeps.act fun _ => rfl)
              exact opened.bind fun _ _ => .pure trivial

theorem upholds_stream (request : Request) :
    Upholds (Orderly limits key) (fun _ => True) (stream request) := by
  rw [stream]
  split
  · exact .pure trivial
  · refine upholds_askIntake.bind fun intake sameLimits => upholds_orFailure ?_
    refine upholds_joinOpened ?_ _ _ _ _
    rw [Intake.channelName, sameLimits, Intake.cleanName_cleanName]

theorem upholds_token (request : Request) :
    Upholds (Orderly limits key) (fun _ => True) (token request) := by
  rw [token]
  split
  · exact .pure trivial
  · exact upholds_askIntake.bind fun intake _ =>
      (upholds_issueToken _ _).bind fun _ _ => .pure trivial

theorem upholds_send (request : Request) :
    Upholds (Orderly limits key) (fun _ => True) (send request) := by
  rw [send]
  split
  · exact .pure trivial
  · split
    · exact .pure trivial
    · exact upholds_askIntake.bind fun intake _ =>
        upholds_orFailure ((upholds_submit _).bind fun _ _ => .pure trivial)

theorem upholds_link (request : Request) (segment label : String) :
    Upholds (Orderly limits key) (fun _ => True) (link request segment label) := by
  rw [link]
  split
  · exact .pure trivial
  · exact .pure trivial
  · split
    · exact .pure trivial
    · refine (upholds_of_keeps (Keeps.ask _)).bind fun service _ => ?_
      dsimp only
      split
      · exact .pure trivial
      · split
        · split
          · exact .pure trivial
          · exact trivial
        · exact .pure trivial

theorem upholds_recent : Upholds (Orderly limits key) (fun _ => True) recent := by
  refine upholds_orFailure ?_
  refine (upholds_of_keeps (Keeps.act fun _ => rfl)).bind fun listed _ => ?_
  cases listed with
  | error fault => exact .pure trivial
  | ok listed =>
      refine (upholds_of_keeps (Keeps.act fun _ => rfl)).bind fun stored _ => ?_
      cases stored with
      | error fault => exact .pure trivial
      | ok stored =>
          exact (upholds_of_keeps (Keeps.ask _)).bind fun directory _ => .pure trivial

theorem upholds_answerAt (request : Request) (route : Route) :
    Upholds (Orderly limits key) (fun _ => True) (answerAt request route) := by
  cases route with
  | stream => exact upholds_stream request
  | token => exact upholds_token request
  | send => exact upholds_send request
  | link segment label => exact upholds_link request segment label
  | recent => exact upholds_recent

theorem upholds_dropStream (stream : Nat) :
    Upholds (Orderly limits key) (fun _ => True) (dropStream stream) :=
  upholds_of_keeps (Keeps.modify fun _ => rfl)

theorem upholds_answer (request : Request) :
    Upholds (Orderly limits key) (fun _ => True) (answer request) := by
  rw [answer]
  split
  · exact .pure trivial
  · split
    · refine (upholds_answerAt request _).bind fun response _ => ?_
      split
      · rw [withoutContent]
        split
        · exact (upholds_dropStream _).bind fun _ _ => .pure trivial
        · exact .pure trivial
        · exact .pure trivial
        · exact .pure trivial
      · exact .pure trivial
    · exact .pure trivial

theorem upholds_readStream (stream : Nat) :
    Upholds (Orderly limits key) (fun _ => True) (readStream stream) := by
  refine upholds_act fun service orderly => ?_
  split
  · exact orderly
  · exact orderly.of_premises rfl

theorem upholds_startPurgeTimer (period : Nat) :
    Upholds (Orderly limits key) (fun _ => True) (startPurgeTimer period) := by
  have timed : Upholds (Orderly limits key) (fun _ => True) (do
      let now ← Operation.ask Service.instant
      addTimer (.purge period (now + period))) :=
    (upholds_of_keeps (Keeps.ask _)).bind fun _ _ => upholds_addTimer _
  rw [startPurgeTimer]
  split
  · exact trivial
  · exact timed

theorem Task.upholds {operation : Op Unit} (task : Task operation) :
    Upholds (Orderly limits key) (fun _ => True) operation := by
  cases task with
  | answer request => exact (upholds_answer request).discard
  | serve => exact upholds_serveAll
  | read stream => exact (upholds_readStream stream).discard
  | hangUp stream => exact upholds_dropStream stream
  | sleep milliseconds => exact upholds_sleep milliseconds
  | sweep period => exact upholds_startPurgeTimer period

/-- A request may be answered in whole before anything else happens. -/
theorem Running.answered {left : List (Op Unit)} (running : Running limits key before left)
    (ends : Ends (answer request) before (.ok response) after) :
    ∃ rest, Running limits key after (rest :: left) :=
  running.complete (.answer request) (ends_discard.mpr ⟨response, ends⟩)

/-- Whatever a server is at, its service is in order. -/
theorem Running.orderly {left : List (Op Unit)} (running : Running limits key before left) :
    Orderly limits key before :=
  (running.sound (fun _ begun => begun.orderly)
    (fun _ _ same orderly => orderly.of_premises same) fun _ task => task.upholds).1

end Web

end FrameChat
