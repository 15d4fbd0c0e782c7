import FrameChat.Service.Rooms

/-!
# Submissions

A submission is checked in a fixed order: the wait of its address, its token,
whether its channel is live, and whether anything is left of its text.  What
passes is added to the channel, and the channel is drawn again, also if the
archive failed.
-/

namespace FrameChat.Service

/-- A message that someone wants to post, as it came in. -/
structure Submission where
  channel : String
  identity : String
  text : String
  token : Option String
  address : Net.Address

/-- What became of a submission that was not refused. -/
inductive Accepted where
  | posted (message : Message)
  /-- the channel is not live -/
  | dropped
  /-- nothing was left of the text -/
  | ignored
  deriving DecidableEq, Repr

/-- Why a submission was refused. -/
inductive Refused where
  | coolingDown
  | token (refusal : Token.Refusal)
  /-- the message is shown, but not in the archive -/
  | archive (fault : Archive.Fault)
  deriving DecidableEq, Repr

/-- How a refusal is worded. -/
def Refused.message : Refused → String
  | .coolingDown => "cooling down"
  | .token refusal => "token rejected: " ++ refusal.message
  | .archive fault => "message not persisted: " ++ fault.message

/-- Issue a token to a stated identity at an address. -/
def issueToken (stated : String) (address : Net.Address) : Op String := do
  let nonce ← randomBytes Cipher.Seal.nonceLength
  let now ← Operation.now
  Operation.act fun service =>
    let intake := service.intake
    let (token, guard) :=
      intake.guard.issue (Intake.binding (intake.identity stated) address)
        (Intake.tokenSeconds now) nonce
    (token, { service with intake := { intake with guard } })

/-- Let an address pass, or make it wait. -/
def passAddress (address : Net.Address) : Op Bool :=
  .act fun service =>
    let (passes, intake) := service.intake.pass address service.uptime
    (passes, { service with intake })

/-- Check and spend a token. -/
def spendToken (token binding : String) : Op (Except Token.Refusal Unit) := do
  let now ← Operation.now
  Operation.act fun service =>
    let (verdict, guard) := service.intake.guard.validate token binding (Intake.tokenSeconds now)
    (verdict, { service with intake := { service.intake with guard } })

/-- Check the token of a submission, if one is required. -/
def checkToken (submission : Submission) : Op (Except Token.Refusal Unit) := do
  let intake ← Operation.ask Service.intake
  if intake.limits.requireToken then
    spendToken (submission.token.getD "")
      (Intake.binding (intake.identity submission.identity) submission.address)
  else
    return .ok ()

/-- Add a written message to a live channel and draw the channel again. -/
def post (channel : Nat) (message : Message) : Op (Except Refused Accepted) := do
  match ← append channel message with
  | .ok message =>
      discard (refresh channel)
      return .ok (.posted message)
  | .error (.archive fault) =>
      discard (refresh channel)
      return .error (.archive fault)
  | .error .closed => return .ok .dropped

/-- Check a submission and post it. -/
def submit (submission : Submission) : Op (Except Refused Accepted) := do
  if !(← passAddress submission.address) then
    return .error .coolingDown
  match ← checkToken submission with
  | .error refusal => return .error (.token refusal)
  | .ok () =>
      let service ← Operation.ask id
      let intake := service.intake
      match service.find? (intake.channelName submission.channel) with
      | none => return .ok .dropped
      | some channel =>
          let text := Intake.cleanMessage submission.text intake.limits.maxMessageBytes
            intake.limits.maxMessageLines
          if Text.allBlank text then
            return .ok .ignored
          else
            post channel (Message.written (intake.identity submission.identity) text)

end FrameChat.Service
