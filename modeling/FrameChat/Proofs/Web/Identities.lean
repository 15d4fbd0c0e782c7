import FrameChat.Proofs.Net.Address
import FrameChat.Proofs.Web.Names

/-!
# Identities in requests

Whoever makes a request states a name or none, and comes from an address.  The identity that
follows from the two is the same for streams, for tokens and for submissions, although tokens
and submissions clean it once more (`one_identity`).  What a token is bound to tells identity
and address, so that it is of use to nobody else, unless the condensed bindings coincide.
-/

namespace FrameChat

namespace Token.Guard

/-- A token that can be opened is refused to all but those whose condensed binding it has. -/
theorem validate_eq_identityMismatch_iff {guard : Guard} {token binding : String}
    {payload : Payload} {now : Nat} (opened : guard.payload? token = some payload) :
    (guard.validate token binding now).1 = .error .identityMismatch ↔
      payload.binding ≠ bindingHash binding := by
  rw [validate, opened]
  dsimp only
  rw [spend]
  by_cases bound : payload.binding = bindingHash binding
  · rw [if_neg (not_not.mpr bound)]
    refine iff_of_false (fun refused => ?_) (not_not.mpr bound)
    split at refused
    · cases refused
    · dsimp only at refused
      split at refused <;> cases refused
  · rw [if_pos bound]
    exact iff_of_true rfl bound

/-- What a guard issues for a binding, another one with its key refuses to other bindings. -/
theorem validate_issue_eq_identityMismatch_iff {guard other : Guard}
    (sameKey : other.key = guard.key) {nonce : Bytes}
    (length : nonce.length = Cipher.Seal.nonceLength) (binding presenter : String)
    (issued now : Nat) :
    (other.validate (guard.issue binding issued nonce).1 presenter now).1 =
        .error .identityMismatch ↔
      bindingHash binding ≠ bindingHash presenter := by
  have opened : other.payload? (guard.issue binding issued nonce).1 =
      some (guard.payloadFor binding issued) :=
    (payload?_of_key sameKey _).trans
      (payload?_sealPayload guard length (length_bindingHash binding))
  exact validate_eq_identityMismatch_iff opened

end Token.Guard

namespace Intake

/-- The binding of identities tells them and the addresses. -/
theorem binding_identityOf_eq_iff {limits : Limits} {stated other : Option String}
    {peer address : Net.Address} :
    binding (limits.identityOf stated peer) peer =
        binding (limits.identityOf other address) address ↔
      limits.identityOf stated peer = limits.identityOf other address ∧ peer = address := by
  rw [binding_eq_iff (fun _ member => isNameChar_of_mem_identityOf member)
    (fun _ member => isNameChar_of_mem_identityOf member), Net.Address.text_injective.eq_iff]

end Intake

namespace Web

open Operation Service

variable {limits : Intake.Limits} {key : Bytes} {service after : Service} {request : Request}
  {fields : Fields} {response : Response} {shows : Option Seconds → Prop}

/-- There is room for the identity, so that cleaning it changes nothing. -/
theorem identity_identityOf (orderly : Orderly limits key service)
    (roomy : Intake.addressIdentityLength ≤ limits.maxIdentityChars) (stated : Option String)
    (address : Net.Address) :
    service.intake.identity (limits.identityOf stated address) =
      limits.identityOf stated address := by
  rw [Intake.identity, orderly.sameLimits, Intake.cleanName_identityOf roomy]

theorem ends_token (orderly : Orderly limits key service)
    (roomy : Intake.addressIdentityLength ≤ limits.maxIdentityChars)
    (asks : request.Asks .token fields)
    (ends : Ends (answer request) service (.ok response) after) :
    ∃ nonce now, nonce.length = Cipher.Seal.nonceLength ∧
      response = .plain 200 (service.intake.guard.issue
        (Intake.binding (limits.identityOf (fields.lookup "uid") request.peer) request.peer)
        (Intake.tokenSeconds now) nonce).1 := by
  rcases (ends_answer_token asks orderly.sameLimits).mp ends with ⟨token, issued, rfl⟩
  rcases ends_issueToken issued with ⟨nonce, now, length, rfl⟩
  rw [identity_identityOf orderly roomy]
  exact ⟨nonce, now, length, rfl⟩

/-- A submission is one of the identity. -/
theorem ends_send_identity (orderly : Orderly limits key service)
    (roomy : Intake.addressIdentityLength ≤ limits.maxIdentityChars)
    (asks : request.Asks .send fields)
    (ends : EndsWhile shows (answer request) service (.ok response) after) :
    Submits shows limits (Intake.cleanName (rawName fields) limits.maxNameChars)
      (limits.identityOf (fields.lookup "uid") request.peer) (cleanText limits fields)
      (presented fields) request.peer service response after := by
  have submits := ends_send asks ends
  rwa [orderly.sameLimits, identity_identityOf orderly roomy] at submits

/-- Whoever presents a token that is bound to others waits, or is refused for that. -/
theorem Submits.of_identityMismatch {name identity text token : String}
    {address : Net.Address}
    (submits : Submits shows limits name identity text token address service response after)
    (required : limits.requireToken = true)
    (mismatch : ∀ now, (service.intake.guard.validate token (Intake.binding identity address)
      (Intake.tokenSeconds now)).1 = .error .identityMismatch) :
    after.chronicle = service.chronicle ∧
      (response = submissionResponse (.error (.token .identityMismatch)) ∨
        (service.intake.pass address service.uptime).1 = false ∧
          response = submissionResponse (.error .coolingDown) ∨
        shows none ∧ response = .bare 500) := by
  have ungranted : ¬ Granted limits service.intake.guard token
      (Intake.binding identity address) := fun granted => by
    rcases granted required with ⟨now, accepted⟩
    rw [mismatch now] at accepted
    cases accepted
  cases submits with
  | failed unread same => exact ⟨same, .inr (.inr ⟨unread, rfl⟩)⟩
  | waits waiting same => exact ⟨same, .inr (.inl ⟨waiting, rfl⟩)⟩
  | refused now required refused same =>
      rw [mismatch now] at refused
      cases refused
      exact ⟨same, .inl rfl⟩
  | dropped granted => exact absurd granted ungranted
  | ignored granted => exact absurd granted ungranted
  | posted granted => exact absurd granted ungranted
  | undrawn _ granted => exact absurd granted ungranted

/-- A request for a place by someone who states a name or none, from an address. -/
structure Request.AsksAs (request : Request) (stated : Option String) (peer : Net.Address)
    (route : Route) (fields : Fields) : Prop extends Request.Asks request route fields where
  uid : fields.lookup "uid" = stated
  origin : request.peer = peer

/--
Whoever states a name or none and comes from an address has one identity, whatever a server is
at.  A stream that is opened serves the identity, a token is bound to it and to the address,
and so is a submission, which is also written by the identity.  The binding of somebody else
differs, unless the other has the same identity and comes from the same address; and a token
that is presented by somebody else is refused for that, unless the condensed bindings coincide.
Then nothing is written; the answer is another one only if the address has to wait anyhow, or
if the clock may fail.
-/
theorem one_identity {left : List (Op Unit)}
    (roomy : Intake.addressIdentityLength ≤ limits.maxIdentityChars)
    (running : Running limits key service left) (stated : Option String) (peer : Net.Address) :
    let identity := limits.identityOf stated peer
    (∀ {request : Request} {fields : Fields} {response : Response} {after : Service}
        {stream : Nat},
      request.AsksAs stated peer .stream fields →
        Ends (answer request) service (.ok response) after → response.body = .stream stream →
          ∃ channel session, Watches (Intake.cleanName (rawName fields) limits.maxNameChars)
            identity (viewportOf fields) peer stream channel session after) ∧
      (∀ {request : Request} {fields : Fields} {response : Response} {after : Service},
        request.AsksAs stated peer .token fields →
          Ends (answer request) service (.ok response) after →
            ∃ nonce now, nonce.length = Cipher.Seal.nonceLength ∧
              response = .plain 200 (service.intake.guard.issue
                (Intake.binding identity peer) (Intake.tokenSeconds now) nonce).1) ∧
      (∀ {request : Request} {fields : Fields} {response : Response} {after : Service}
          {shows : Option Seconds → Prop},
        request.AsksAs stated peer .send fields →
          EndsWhile shows (answer request) service (.ok response) after →
            Submits shows limits (Intake.cleanName (rawName fields) limits.maxNameChars) identity
              (cleanText limits fields) (presented fields) peer service response after) ∧
      ∀ (other : Option String) (address : Net.Address),
        let presenter := Intake.binding (limits.identityOf other address) address
        (Intake.binding identity peer = presenter ↔
          identity = limits.identityOf other address ∧ peer = address) ∧
        ∀ {asking sending : Request} {askFields sendFields : Fields} {token : String}
            {issued receiver : Service} {later : List (Op Unit)},
          asking.AsksAs stated peer .token askFields →
            Ends (answer asking) service (.ok (.plain 200 token)) issued →
              Running limits key receiver later →
                sending.AsksAs other address .send sendFields → presented sendFields = token →
                  (∀ now, (receiver.intake.guard.validate token presenter now).1 =
                      .error .identityMismatch ↔
                    Token.bindingHash (Intake.binding identity peer) ≠
                      Token.bindingHash presenter) ∧
                    (limits.requireToken = true →
                      Token.bindingHash (Intake.binding identity peer) ≠
                        Token.bindingHash presenter →
                          ∀ {shows response after},
                            EndsWhile shows (answer sending) receiver (.ok response) after →
                              after.chronicle = receiver.chronicle ∧
                                (response =
                                    submissionResponse (.error (.token .identityMismatch)) ∨
                                  (receiver.intake.pass address receiver.uptime).1 = false ∧
                                    response = submissionResponse (.error .coolingDown) ∨
                                  shows none ∧ response = .bare 500)) := by
  intro identity
  have orderly := running.orderly
  refine ⟨?_, ?_, ?_, fun other address => ⟨Intake.binding_identityOf_eq_iff, ?_⟩⟩
  · rintro request fields response after stream ⟨asks, rfl, rfl⟩ ends streams
    exact ends_stream orderly asks ends streams
  · rintro request fields response after ⟨asks, rfl, rfl⟩ ends
    exact ends_token orderly roomy asks ends
  · rintro request fields response after shows ⟨asks, rfl, rfl⟩ ends
    exact ends_send_identity orderly roomy asks ends
  · rintro asking sending askFields sendFields token issued receiver later ⟨asks, rfl, rfl⟩ ends
      present ⟨sends, rfl, rfl⟩ rfl
    rcases ends_token orderly roomy asks ends with ⟨nonce, issuedAt, length, answered⟩
    have text : presented sendFields = (service.intake.guard.issue (Intake.binding identity
        asking.peer) (Intake.tokenSeconds issuedAt) nonce).1 := by
      injection answered with _ _ _ _ body
      exact Body.text.inj body
    have sameKey : receiver.intake.guard.key = service.intake.guard.key :=
      present.orderly.sameKey.trans orderly.sameKey.symm
    have refused (presenter : String) (now : Nat) :
        (receiver.intake.guard.validate (presented sendFields) presenter now).1 =
          .error .identityMismatch ↔
            Token.bindingHash (Intake.binding identity asking.peer) ≠
              Token.bindingHash presenter := by
      rw [text]
      exact Token.Guard.validate_issue_eq_identityMismatch_iff sameKey length _ _ _ now
    refine ⟨refused _, fun required differ shows response after sent => ?_⟩
    exact (ends_send_identity present.orderly roomy sends sent).of_identityMismatch required
      fun now => (refused _ _).mpr differ

/-- Where Ann and Bob come from. -/
def home : Net.Address := .v4 10 0 0 1

/-- Ann asks for a token. -/
def askToken : Request := visit "/~token?uid=ann"

/-- The token that Ann gets of a service that has just begun. -/
def annsToken : String :=
  "9b74a8516a89391beaa27e740c9fcb53e132451fbe9a822c" ++
    "3f910820da563ab44b2884f8067119502551f990ac22d27b96d06a20"

/-- The token was issued. -/
def ticketed : Service := leftBy (issueToken "ann" home) bare

/-- Ann opens a channel. -/
def enterLobby : Request := visit "/~stream?name=lobby&uid=ann"

/-- What comes of the request for the channel. -/
def enteringLobby : Op Response :=
  joinOpened "lobby" "ann" .narrow home 2

/-- The channel is live, and Ann watches it. -/
def watched : Service := leftBy enteringLobby ticketed

/-- Ann presents a token. -/
def sendAsAnn (token : String) : Request :=
  sendForm ("name=lobby&uid=ann&text=hi" ++ "&" ++ ("token=" ++ token))

/-- What comes of Ann's submission with her token. -/
def sendingAsAnn : Op (Except Refused Accepted) :=
  submit ⟨"lobby", "ann", "hi", some annsToken, home⟩

/-- The service where Ann has said what she wanted to say. -/
def heard : Service := leftBy sendingAsAnn watched

/-- Bob presents a token. -/
def sendAsBob (token : String) : Request :=
  sendForm ("name=lobby&uid=bob" ++ "&" ++ ("token=" ++ token))

/-- The key of the service. -/
def bareKey : Bytes := (Entropy.bytes keyLength ⟨0⟩).1

theorem begun_bare : Begun .standard bareKey bare :=
  begun_start ..

/-- The fields of a form that goes on from another one. -/
theorem fields_append (first second : String) :
    Form.fields (first ++ "&" ++ second) = Form.fields first ++ Form.fields second := by
  have joined : (first ++ "&" ++ second).toList = first.toList ++ '&' :: second.toList := by
    simp
  rw [Form.fields, Form.fields, Form.fields, splitOn_ampersand, splitOn_ampersand,
    splitOn_ampersand, joined, List.splitOn_append_cons_self, List.map_append, List.filter_append,
    List.map_append]

/-- The fields of all that is asked. -/
theorem fields_asked :
    Form.fields "uid=ann" = [("uid", "ann")] ∧
      Form.fields "name=lobby&uid=ann" = [("name", "lobby"), ("uid", "ann")] ∧
      Form.fields "name=lobby&uid=ann&text=hi" =
        [("name", "lobby"), ("uid", "ann"), ("text", "hi")] ∧
      Form.fields "name=lobby&uid=bob" = [("name", "lobby"), ("uid", "bob")] ∧
      Form.fields ("token=" ++ annsToken) = [("token", annsToken)] := by
  simp only [Form.fields, splitOn_ampersand]
  decide +kernel

theorem asks_askToken : askToken.Asks .token [("uid", "ann")] where
  method := rfl
  path := by
    rw [Route.ofPath?, splitOn_slash]
    decide
  form := nofun
  read := by
    have query : askToken.query = "uid=ann" := by decide
    rw [Request.read, query, Form.read, fields_asked.1]
    rfl

theorem asks_enterLobby : enterLobby.Asks .stream [("name", "lobby"), ("uid", "ann")] where
  method := rfl
  path := by
    rw [Route.ofPath?, splitOn_slash]
    decide
  form := nofun
  read := by
    have query : enterLobby.query = "name=lobby&uid=ann" := by decide
    rw [Request.read, query, Form.read, fields_asked.2.1]
    rfl

theorem asks_sendAsAnn :
    (sendAsAnn annsToken).Asks .send
      [("name", "lobby"), ("uid", "ann"), ("text", "hi"), ("token", annsToken)] := by
  rcases fields_asked with ⟨-, -, spoken, -, token⟩
  refine asks_sendForm ?_
  rw [Form.read, fields_append, spoken, token]
  rfl

theorem asks_sendAsBob :
    (sendAsBob annsToken).Asks .send
      [("name", "lobby"), ("uid", "bob"), ("token", annsToken)] := by
  rcases fields_asked with ⟨-, -, -, silent, token⟩
  refine asks_sendForm ?_
  rw [Form.read, fields_append, silent, token]
  rfl

/-- What Ann asks for comes to what she wants, and her address may go on then. -/
theorem ann_heard :
    replyOf (issueToken "ann" home) bare = .ok annsToken ∧
      streamOf (replyOf enteringLobby ticketed) = some 0 ∧
      isPosted (replyOf sendingAsAnn watched) = true ∧
      (heard.channel 0).log.getLast?.map (fun message => (message.author, message.text)) =
        some ("ann", "hi") ∧
      (watched.intake.pass home watched.uptime).1 = true ∧
      Token.bindingHash (Intake.binding "ann" home) ≠
        Token.bindingHash (Intake.binding "bob" home) := by
  decide +kernel

theorem ends_askToken : Ends (answer askToken) bare (.ok (.plain 200 annsToken)) ticketed := by
  have issuing : Ends (issueToken "ann" home) bare (.ok annsToken) ticketed :=
    ends_of_replyOf ann_heard.1
  exact (ends_answer_token asks_askToken begun_bare.orderly.sameLimits).mpr
    ⟨annsToken, issuing, rfl⟩

theorem running_ticketed : ∃ left, Running .standard bareKey ticketed left := by
  rcases Running.answered (.start begun_bare) ends_askToken with ⟨rest, running⟩
  exact ⟨[rest], running⟩

theorem ends_enterLobby :
    ∃ response, Ends (answer enterLobby) ticketed (.ok response) watched ∧
      response.body = .stream 0 := by
  rcases running_ticketed with ⟨left, running⟩
  rcases exists_of_streamOf ann_heard.2.1 with ⟨response, ran, streams⟩
  have entering : Ends enteringLobby ticketed (.ok response) watched := ends_of_replyOf ran
  exact ⟨response, (ends_answer_stream asks_enterLobby running.orderly.sameLimits).mpr
    (ends_orFailure.mpr (.inl entering)), streams⟩

theorem running_watched : ∃ left, Running .standard bareKey watched left := by
  rcases running_ticketed with ⟨left, running⟩
  rcases ends_enterLobby with ⟨response, ends, -⟩
  rcases running.answered ends with ⟨rest, running⟩
  exact ⟨rest :: left, running⟩

theorem ends_sendAsAnn : Ends (answer (sendAsAnn annsToken)) watched (.ok (.bare 204)) heard := by
  rcases running_watched with ⟨left, running⟩
  rcases exists_of_isPosted ann_heard.2.2.1 with ⟨message, ran⟩
  have submission : submissionOf watched.intake (sendAsAnn annsToken)
      [("name", "lobby"), ("uid", "ann"), ("text", "hi"), ("token", annsToken)] =
        ⟨"lobby", "ann", "hi", some annsToken, home⟩ := by
    rw [submissionOf, Intake.resolvedIdentity_eq, running.orderly.sameLimits]
    rfl
  have sending : Ends sendingAsAnn watched (.ok (.ok (.posted message))) heard :=
    ends_of_replyOf ran
  rw [sendingAsAnn, ← submission] at sending
  exact Ends.answer_send asks_sendAsAnn sending

/--
Ann watches as Ann, her token is bound to her name, and with it she says what is shown as hers.
To Bob, who comes from the same address, the token is of no use.
-/
theorem one_identity_of_ann :
    Intake.addressIdentityLength ≤ Intake.Limits.standard.maxIdentityChars ∧
      (∃ left, Running .standard bareKey watched left) ∧
      (Ends (answer askToken) bare (.ok (.plain 200 annsToken)) ticketed ∧
        ∃ nonce now, annsToken = (bare.intake.guard.issue (Intake.binding "ann" home)
          (Intake.tokenSeconds now) nonce).1) ∧
      (∃ response channel session, Ends (answer enterLobby) ticketed (.ok response) watched ∧
        Watches "lobby" "ann" .narrow home 0 channel session watched) ∧
      (Ends (answer (sendAsAnn annsToken)) watched (.ok (.bare 204)) heard ∧
        Submits (fun _ => True) .standard "lobby" "ann" "hi" annsToken home watched (.bare 204)
          heard ∧
        ∃ message, (heard.channel 0).log.getLast? = some message ∧
          message.author = "ann" ∧ message.text = "hi") ∧
      ∀ {shows response after},
        EndsWhile shows (answer (sendAsBob annsToken)) watched (.ok response) after →
          after.chronicle = watched.chronicle ∧
            (response = submissionResponse (.error (.token .identityMismatch)) ∨
              shows none ∧ response = .bare 500) := by
  have room : Intake.addressIdentityLength ≤ Intake.Limits.standard.maxIdentityChars := by
    decide
  rcases ann_heard with ⟨-, -, -, said, passes, differ⟩
  rcases running_ticketed with ⟨left, running⟩
  rcases running_watched with ⟨later, present⟩
  rcases one_identity room (.start begun_bare) (some "ann") home with ⟨-, token, -, others⟩
  refine ⟨room, ⟨later, present⟩, ⟨ends_askToken, ?_⟩, ?_, ⟨ends_sendAsAnn, ?_, ?_⟩, ?_⟩
  · rcases token ⟨asks_askToken, rfl, rfl⟩ ends_askToken with ⟨nonce, now, -, same⟩
    injection same with _ _ _ _ body
    exact ⟨nonce, now, Body.text.inj body⟩
  · rcases one_identity room running (some "ann") home with ⟨stream, -⟩
    rcases ends_enterLobby with ⟨response, ends, streams⟩
    rcases stream ⟨asks_enterLobby, rfl, rfl⟩ ends streams with ⟨channel, session, watches⟩
    exact ⟨response, channel, session, ends, watches⟩
  · rcases one_identity room present (some "ann") home with ⟨-, -, submits, -⟩
    exact submits ⟨asks_sendAsAnn, rfl, rfl⟩ ends_sendAsAnn.endsWhile
  · rcases Option.map_eq_some_iff.mp said with ⟨message, shown, same⟩
    exact ⟨message, shown, congrArg Prod.fst same, congrArg Prod.snd same⟩
  · intro shows response after ends
    rcases others (some "bob") home with ⟨-, presented⟩
    rcases (presented ⟨asks_askToken, rfl, rfl⟩ ends_askToken present
      ⟨asks_sendAsBob, rfl, rfl⟩ rfl).2 rfl differ ends with
      ⟨same, refused | ⟨waits, -⟩ | failed⟩
    · exact ⟨same, .inl refused⟩
    · cases passes.symm.trans waits
    · exact ⟨same, .inr failed⟩

end Web

end FrameChat
