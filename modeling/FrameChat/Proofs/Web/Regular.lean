import FrameChat.Proofs.Service.Writing
import FrameChat.Proofs.Web.Requests

/-!
# How messages come in over the web

A server answers requests, serves streams, and lets time pass for timers.  Of all that, only
a submission, a stream that is opened, and a viewer who goes away write a message, and they do
it by submitting, joining and leaving.  So whatever a server does is regular (`Task.regular`),
and what is written in its service is as its limits admit it.
-/

namespace FrameChat

namespace Service

open Operation

/-! ## Streams and timers -/

theorem keeps_writings_serveStream (index : Nat) : Keeps writings (serveStream index) := by
  refine Keeps.act fun service => ?_
  split
  case h_1 => rfl
  case h_2 stream found =>
    split
    case isTrue => rfl
    case isFalse =>
      have still (allowance : Channel.Allowance) (channel : Channel) :
          (channel.serveSession stream.session allowance).2.ledger.log = channel.ledger.log := rfl
      exact writings_withChannel (still _) stream.channel service

theorem regular_serveStreams (indices : List Nat) : Regular (serveStreams indices) := by
  induction indices with
  | nil => exact .idle (Keeps.pure _)
  | cons index rest ih =>
      exact (Regular.idle (keeps_writings_serveStream index)).bind fun leaves =>
        ih.bind fun more => .idle (Keeps.pure _)

theorem regular_leaveAll (sessions : List (Nat × Nat)) : Regular (leaveAll sessions) := by
  induction sessions with
  | nil => exact .idle (Keeps.pure _)
  | cons entry rest ih =>
      exact (Regular.leave entry.1 entry.2).attempt.discard.bind fun _ => ih

theorem regular_serveRounds (rounds : Nat) : Regular (serveRounds rounds) := by
  induction rounds with
  | zero => exact .idle (Keeps.pure _)
  | succ rounds ih =>
      refine (Regular.idle (Keeps.ask _)).bind fun count => ?_
      refine (regular_serveStreams _).bind fun leaves => ?_
      cases leaves with
      | nil => exact .idle (Keeps.pure _)
      | cons leaver others => exact (regular_leaveAll _).bind fun _ => ih

theorem regular_serveAll : Regular serveAll :=
  (Regular.idle (Keeps.ask _)).bind fun _ => regular_serveRounds _

theorem regular_addTimer (timer : Timer) : Regular (addTimer timer) :=
  .idle (Keeps.modify fun _ => rfl)

theorem regular_fire (timer : Timer) : Regular (fire timer) := by
  cases timer with
  | purge period deadline =>
      exact (Regular.idle keeps_writings_purge).discard.bind fun _ => regular_addTimer _
  | refresh index deadline =>
      refine (Regular.idle (Keeps.ask _)).bind fun service => ?_
      dsimp only
      split
      · exact .idle (Keeps.pure _)
      · split
        · exact (Regular.idle (keeps_writings_refresh index)).attempt.discard.bind fun _ =>
            regular_addTimer _
        · exact regular_addTimer _

theorem keeps_writings_nextDue (target : Nat) : Keeps writings (nextDue target) := by
  refine Keeps.act fun service => ?_
  split
  · rfl
  · split <;> rfl

theorem regular_fireUntil (target bound : Nat) : Regular (fireUntil target bound) := by
  induction bound with
  | zero => exact .idle (Keeps.pure _)
  | succ bound ih =>
      refine (Regular.idle (keeps_writings_nextDue target)).bind fun due => ?_
      cases due with
      | none => exact .idle (Keeps.pure _)
      | some timer => exact (regular_fire timer).bind fun _ => regular_serveAll.bind fun _ => ih

theorem regular_sleep (milliseconds : Nat) : Regular (sleep milliseconds) :=
  (Regular.idle (Keeps.ask _)).bind fun _ =>
    (regular_fireUntil _ _).bind fun _ => .idle (Keeps.modify fun _ => rfl)

theorem keeps_writings_issueToken (stated : String) (address : Net.Address) :
    Keeps writings (issueToken stated address) :=
  (keeps_writings_randomBytes _).bind fun _ => Keeps.now.bind fun _ => Keeps.act fun _ => rfl

end Service

namespace Web

open Operation Service

/-! ## Requests -/

theorem regular_orFailure {operation : Op Response} (regular : Regular operation) :
    Regular (orFailure operation) := by
  refine regular.attempt.bind fun result => ?_
  cases result <;> exact .idle (Keeps.pure _)

theorem regular_joinOpened (name identity : String) (viewport : Viewport) (address : Net.Address)
    (tries : Nat) : Regular (joinOpened name identity viewport address tries) := by
  induction tries with
  | zero => exact .idle (Keeps.pure _)
  | succ tries ih =>
      refine (Regular.openChannel name).bind fun answer => ?_
      cases answer with
      | error fault => exact .idle (Keeps.pure _)
      | ok channel =>
          refine (Regular.join channel identity viewport address).bind fun joined => ?_
          cases joined with
          | closed => exact ih
          | rejected notice => exact .idle (Keeps.pure _)
          | joined session =>
              exact .idle ((Keeps.act fun _ => rfl).bind fun _ => Keeps.pure _)

theorem regular_stream (request : Request) : Regular (stream request) := by
  rw [stream]
  split
  · exact .idle (Keeps.pure _)
  · exact (Regular.idle (Keeps.ask _)).bind fun intake =>
      regular_orFailure (regular_joinOpened _ _ _ _ _)

theorem regular_token (request : Request) : Regular (token request) := by
  rw [token]
  split
  · exact .idle (Keeps.pure _)
  · exact .idle ((Keeps.ask _).bind fun intake =>
      (keeps_writings_issueToken _ _).bind fun _ => Keeps.pure _)

theorem regular_send (request : Request) : Regular (send request) := by
  rw [send]
  split
  · exact .idle (Keeps.pure _)
  · split
    · exact .idle (Keeps.pure _)
    · exact (Regular.idle (Keeps.ask _)).bind fun intake =>
        regular_orFailure ((Regular.submit _).bind fun _ => .idle (Keeps.pure _))

theorem keeps_writings_linkTo (name index : String) (viewport : Viewport) :
    Keeps writings (linkTo name index viewport) := by
  refine (Keeps.ask _).bind fun service => ?_
  dsimp only
  split
  · exact Keeps.pure _
  · split
    · split
      · exact Keeps.pure _
      · trivial
    · exact Keeps.pure _

theorem regular_link (request : Request) (segment label : String) :
    Regular (link request segment label) := by
  rw [link]
  split
  · exact .idle (Keeps.pure _)
  · exact .idle (Keeps.pure _)
  · split
    · exact .idle (Keeps.pure _)
    · exact .idle (keeps_writings_linkTo _ _ _)

theorem regular_recent : Regular recent := by
  refine regular_orFailure (.idle ?_)
  refine (Keeps.act fun _ => rfl).bind fun listed => ?_
  cases listed with
  | error fault => exact Keeps.pure _
  | ok listed =>
      refine (Keeps.act fun _ => rfl).bind fun stored => ?_
      cases stored with
      | error fault => exact Keeps.pure _
      | ok stored => exact (Keeps.ask _).bind fun directory => Keeps.pure _

theorem regular_answerAt (request : Request) (route : Route) :
    Regular (answerAt request route) := by
  cases route with
  | stream => exact regular_stream request
  | token => exact regular_token request
  | send => exact regular_send request
  | link segment label => exact regular_link request segment label
  | recent => exact regular_recent

theorem regular_dropStream (stream : Nat) : Regular (dropStream stream) :=
  .idle (Keeps.modify fun _ => rfl)

theorem regular_withoutContent (response : Response) : Regular (withoutContent response) := by
  rw [withoutContent]
  split
  · exact (regular_dropStream _).bind fun _ => .idle (Keeps.pure _)
  · exact .idle (Keeps.pure _)
  · exact .idle (Keeps.pure _)
  · exact .idle (Keeps.pure _)

theorem regular_answer (request : Request) : Regular (answer request) := by
  rw [answer]
  split
  · exact .idle (Keeps.pure _)
  · split
    · refine (regular_answerAt request _).bind fun response => ?_
      split
      · exact regular_withoutContent response
      · exact .idle (Keeps.pure _)
    · exact .idle (Keeps.pure _)

theorem regular_readStream (stream : Nat) : Regular (readStream stream) := by
  refine .idle (Keeps.act fun service => ?_)
  split <;> rfl

theorem regular_startPurgeTimer (period : Nat) : Regular (startPurgeTimer period) := by
  have timed : Regular (do
      let now ← Operation.ask Service.instant
      addTimer (.purge period (now + period))) :=
    (Regular.idle (Keeps.ask _)).bind fun _ => regular_addTimer _
  rw [startPurgeTimer]
  split
  · exact .idle trivial
  · exact timed

/-- Messages enter a server through submissions and through those who come and go only. -/
theorem Task.regular {operation : Op Unit} (task : Task operation) : Regular operation := by
  cases task with
  | answer request => exact (regular_answer request).discard
  | serve => exact regular_serveAll
  | read stream => exact (regular_readStream stream).discard
  | hangUp stream => exact regular_dropStream stream
  | sleep milliseconds => exact regular_sleep milliseconds
  | sweep period => exact regular_startPurgeTimer period

end Web

end FrameChat
