import FrameChat.Proofs.Service.Holdings
import FrameChat.Proofs.Service.Pacing
import FrameChat.Proofs.Token.Runs

/-!
# What becomes of a submission

A submission ends in one of six ways, and each leaves other parts of the service changed.
`Outcome` says for each answer which parts these are: what is not named is as it was.  The
checks are made in their order, so that a part is changed only if all checks before it were
passed: the addresses that have to wait by the first, the spent tokens by the second, and
log and archive by what passes all of them.

* `Shown`, `Stored`: what it means that a message is shown, and that it is kept as well.
* `Run.submit_outcome`: every submission to a service has an outcome.
-/

namespace FrameChat

namespace Token.Guard

/-- A guard that accepted a token: its payload was not spent, and is the newest spent one now. -/
def Spends (guard : Guard) (token : String) (after : Guard) : Prop :=
  ∃ payload, guard.payload? token = some payload ∧ guard.spent.contains payload = false ∧
    after = { guard with spent := guard.spent.refresh payload }

/-- A guard that refused a token: at most the order of the spent payloads is another one. -/
def Rejects (guard after : Guard) : Prop :=
  ∃ spent, after = { guard with spent } ∧
    ∀ payload, spent.contains payload = true → guard.spent.contains payload = true

variable {guard : Guard} {token binding : String} {now : Nat}

theorem spends_of_accepted (accepted : (guard.validate token binding now).1 = .ok ()) :
    guard.Spends token (guard.validate token binding now).2 := by
  rcases passes_of_accepted accepted with ⟨payload, passes⟩
  refine ⟨payload, passes.opened, ?_, congrArg Prod.snd passes.validate⟩
  by_contra spent
  rw [passes.validate, if_pos (Bool.eq_true_of_not_eq_false spent)] at accepted
  cases accepted

theorem rejects_of_refused {refusal : Refusal}
    (refused : (guard.validate token binding now).1 = .error refusal) :
    guard.Rejects (guard.validate token binding now).2 := by
  rcases validate_cases guard token binding now with ⟨payload, passes⟩ | ⟨_, -, unchanged⟩
  · refine ⟨_, congrArg Prod.snd passes.validate, fun other remembered => ?_⟩
    rcases RecentSet.eq_or_contains_of_refresh remembered with rfl | before
    · by_contra unspent
      rw [passes.validate, if_neg unspent] at refused
      cases refused
    · exact before
  · exact ⟨guard.spent, congrArg Prod.snd unchanged, fun _ => id⟩

end Token.Guard

/-- What is placed among messages with numbers that are not above its own is placed last. -/
theorem Archive.getLast?_place {message : Message} {messages : List Message}
    (increasing : Message.Increasing messages)
    (notAbove : ∀ other ∈ messages, other.id ≤ message.id) :
    (place message messages).getLast? = some message := by
  induction messages with
  | nil => rfl
  | cons head rest ih =>
      rcases List.pairwise_cons.mp increasing with ⟨headBelow, restIncreasing⟩
      rw [place, if_neg (UInt64.not_lt.mpr (notAbove head List.mem_cons_self))]
      split
      case isTrue same =>
        -- The others have numbers above that of the head, and there are none above the message.
        have none : rest = [] := List.eq_nil_iff_forall_not_mem.mpr fun other member =>
          UInt64.not_lt.mpr (notAbove other (List.mem_cons_of_mem head member))
            (same ▸ headBelow other member)
        rw [none, List.getLast?_singleton]
      case isFalse differ =>
        rw [List.getLast?_cons, ih restIncreasing fun other member =>
          notAbove other (List.mem_cons_of_mem head member)]
        rfl

namespace Service

open Operation

/-- A guard after it granted a submission: the token that is wanted was spent. -/
structure Grants (intake : Intake) (submission : Submission) (after : Token.Guard) : Prop where
  spent : intake.limits.requireToken = true →
    intake.guard.Spends (submission.token.getD "") after
  unasked : intake.limits.requireToken = false → after = intake.guard

/-- A service whose intake let an address pass, with what its guard then came to. -/
def admitting (before : Service) (address : Net.Address) (guard : Token.Guard) : Service :=
  { before with intake := { before.intake.noting address before.uptime with guard } }

theorem limits_admitting (before : Service) (address : Net.Address) (guard : Token.Guard) :
    (before.admitting address guard).intake.limits = before.intake.limits :=
  Intake.limits_noting before.intake address before.uptime

theorem chronicle_admitting (before : Service) (address : Net.Address) (guard : Token.Guard) :
    (before.admitting address guard).chronicle = before.chronicle := rfl

/-- A service with the channels, the archive and the faces of another one. -/
def withRoomsOf (service other : Service) : Service :=
  { service with channels := other.channels, archive := other.archive, faces := other.faces }

theorem roomless_withRoomsOf (other : Service) :
    Roomless fun service => service.withRoomsOf other :=
  ⟨fun _ _ => rfl, fun _ _ => rfl, fun _ _ => rfl⟩

/-- The name of the channel to which a submission is made. -/
def Submission.target (submission : Submission) (before : Service) : String :=
  before.intake.channelName submission.channel

/-- The text that is left of a submission. -/
def Submission.cleanText (submission : Submission) (before : Service) : String :=
  Intake.cleanMessage submission.text before.intake.limits.maxMessageBytes
    before.intake.limits.maxMessageLines

/--
A submission is shown as a message: the one message that was added to the log of the live
channel of its name, which was drawn again after that.  No other log changed, nor anything
else but the archive and the faces that were drawn with.
-/
structure Shown (limit : Nat) (submission : Submission) (before : Service) (guard : Token.Guard)
    (index : Nat) (message : Message) (after : Service) : Prop where
  live : before.find? (submission.target before) = some index
  named : (before.channel index).name = submission.target before
  kind : message.kind = .text
  author : message.author = before.intake.identity submission.identity
  text : message.text = submission.cleanText before
  visible : Text.allBlank message.text = false
  log : (after.channel index).log =
    Channel.newest limit ((before.channel index).log ++ [message])
  last : (after.channel index).log.getLast? = some message
  others : ∀ other, other ≠ index → (after.channel other).log = (before.channel other).log
  /-- the channel was drawn again after the message was added -/
  redrawn : ∃ answer appended published,
    Ends (append index (.written message.author message.text))
      (before.admitting submission.address guard) (.ok answer) appended ∧
    Ends (refresh index) appended (.ok published) after
  rest : after.withRoomsOf before = before.admitting submission.address guard

/-- A message is kept as the last one of its channel, and nothing else is kept that was not. -/
structure Stored (name : String) (message : Message) (before after : Archive.Backend) :
    Prop where
  last : (after.records name).getLast? = some (Message.Record.encode message)
  given : ∀ history, after.load name = .ok history → history.getLast? = some message
  earlier : ∀ record ∈ after.records name,
    record = Message.Record.encode message ∨ record ∈ before.records name
  others : ∀ other, other ≠ name → after.records other = before.records other

/-- How a submission ends, and what it makes of a service. -/
inductive Outcome (limit : Nat) (submission : Submission) (before : Service) :
    Except Refused Accepted → Service → Prop where
  /-- nothing happens -/
  | waits :
      (before.intake.pass submission.address before.uptime).1 = false →
        Outcome limit submission before (.error .coolingDown) before
  /-- the address has to wait from now on, and no token is spent -/
  | refused {refusal : Token.Refusal} {guard : Token.Guard} :
      before.intake.limits.requireToken = true → before.intake.guard.Rejects guard →
        Outcome limit submission before (.error (.token refusal))
          (before.admitting submission.address guard)
  /-- the token is spent as well -/
  | dropped {guard : Token.Guard} :
      Grants before.intake submission guard → before.find? (submission.target before) = none →
        Outcome limit submission before (.ok .dropped)
          (before.admitting submission.address guard)
  | ignored {guard : Token.Guard} {index : Nat} :
      Grants before.intake submission guard →
        before.find? (submission.target before) = some index →
        Text.allBlank (submission.cleanText before) = true →
        Outcome limit submission before (.ok .ignored)
          (before.admitting submission.address guard)
  /-- the message is shown, and not kept -/
  | lost {guard : Token.Guard} {index : Nat} {message : Message} {after : Service}
      (fault : Archive.Fault) :
      Grants before.intake submission guard →
        Shown limit submission before guard index message after →
        after.archive.backend = before.archive.backend →
        Outcome limit submission before (.error (.archive fault)) after
  | posted {guard : Token.Guard} {index : Nat} {message : Message} {after : Service} :
      Grants before.intake submission guard →
        Shown limit submission before guard index message after →
        Stored (submission.target before) message before.archive.backend
          after.archive.backend →
        Outcome limit submission before (.ok (.posted message)) after

variable {limit oldest : Nat} {submission : Submission} {before after : Service}

/-! ## The checks -/

/-- A token that is wanted is spent or refused, and nothing but the guard changes. -/
theorem ends_checkToken_guard {verdict : Except Token.Refusal Unit}
    (ends : Ends (checkToken submission) before (.ok verdict) after) :
    ∃ guard, after = { before with intake := { before.intake with guard } } ∧
      ((verdict = .ok () ∧ Grants before.intake submission guard) ∨
        ∃ refusal, verdict = .error refusal ∧ before.intake.limits.requireToken = true ∧
          before.intake.guard.Rejects guard) := by
  replace ends := ends_ask_bind.mp ends
  cases wanted : before.intake.limits.requireToken with
  | false =>
      rw [wanted, if_neg Bool.false_ne_true] at ends
      rcases ends_pure.mp ends with ⟨rfl, rfl⟩
      exact ⟨after.intake.guard, rfl, .inl ⟨rfl, by simp [wanted], fun _ => rfl⟩⟩
  | true =>
      rw [if_pos wanted] at ends
      rcases ends_now_bind.mp ends with ⟨now, ends⟩
      rcases ends_act.mp ends with ⟨rfl, rfl⟩
      refine ⟨_, rfl, ?_⟩
      dsimp only
      cases judged : (before.intake.guard.validate (submission.token.getD "")
        (Intake.binding (before.intake.identity submission.identity) submission.address)
        (Intake.tokenSeconds now)).1 with
      | ok granted =>
          exact .inl ⟨rfl, fun _ => Token.Guard.spends_of_accepted judged, by simp [wanted]⟩
      | error refusal =>
          exact .inr ⟨refusal, rfl, rfl, Token.Guard.rejects_of_refused judged⟩

/-! ## Posting -/

/-- A message is appended, and its channel is drawn again unless it is closed. -/
theorem ends_post_redrawn {index : Nat} {message : Message} {reply : Except Refused Accepted}
    (ends : Ends (post index message) before (.ok reply) after) :
    ∃ answer appended, Ends (append index message) before (.ok answer) appended ∧
      (answer = .error .closed ∨
        ∃ published, Ends (refresh index) appended (.ok published) after ∧
          ((∃ numbered, answer = .ok numbered ∧ reply = .ok (.posted numbered)) ∨
            ∃ fault, answer = .error (.archive fault) ∧ reply = .error (.archive fault))) := by
  rcases ends_bind.mp ends with ⟨answer, appended, appending, ends⟩
  refine ⟨answer, appended, appending, ?_⟩
  cases answer with
  | ok numbered =>
      rcases ends_bind.mp ends with ⟨_, drawn, drawing, ends⟩
      rcases ends_discard.mp drawing with ⟨published, refreshing⟩
      rcases ends_pure.mp ends with ⟨rfl, rfl⟩
      exact .inr ⟨published, refreshing, .inl ⟨numbered, rfl, rfl⟩⟩
  | error fault =>
      cases fault with
      | closed => exact .inl rfl
      | archive fault =>
          rcases ends_bind.mp ends with ⟨_, drawn, drawing, ends⟩
          rcases ends_discard.mp drawing with ⟨published, refreshing⟩
          rcases ends_pure.mp ends with ⟨rfl, rfl⟩
          exact .inr ⟨published, refreshing, .inr ⟨fault, rfl, rfl⟩⟩

theorem log_of_ledger {service : Service} {index : Nat} {ledger : Channel.Ledger}
    (found : service.chronicle.ledgers[index]? = some ledger) :
    (service.channel index).log = ledger.log :=
  congrArg Channel.Ledger.log (ledger_channel found)

theorem log_of_getElem? {first second : Service} {index : Nat}
    (same : first.chronicle.ledgers[index]? = second.chronicle.ledgers[index]?) :
    (first.channel index).log = (second.channel index).log := by
  have ledger : (first.channel index).ledger = (second.channel index).ledger := by
    rw [ledger_channel_eq, ledger_channel_eq, same]
  exact congrArg Channel.Ledger.log ledger

/-- A message that was added to an open instance is shown, once the instance is drawn again. -/
theorem shown_of_add (positive : 0 < limit) {held : Account}
    (agrees : before.chronicle.Agrees limit oldest held) {guard : Token.Guard} {index : Nat}
    {ledger : Channel.Ledger} {message : Message} {answer : Except AppendFault Message}
    {appended : Service} {published : Bool}
    (found : before.find? (submission.target before) = some index)
    (present : before.chronicle.ledgers[index]? = some ledger)
    (visible : Text.allBlank (submission.cleanText before) = false)
    (numbers : ledger.Numbers
      (.written (before.intake.identity submission.identity) (submission.cleanText before)) message)
    (appending : Ends
      (append index
        (.written (before.intake.identity submission.identity) (submission.cleanText before)))
      (before.admitting submission.address guard) (.ok answer) appended)
    (added : appended.chronicle.ledgers = before.chronicle.ledgers.set index (ledger.add message))
    (refreshing : Ends (refresh index) appended (.ok published) after)
    (rest : after.withRoomsOf before = before.admitting submission.address guard) :
    Shown limit submission before guard index message after := by
  have within := (List.getElem?_eq_some_iff.mp present).1
  have redrawn := refreshing.keeps (keeps_refresh index)
  have ledgers : after.chronicle.ledgers = before.chronicle.ledgers.set index (ledger.add message) :=
    (congrArg Chronicle.ledgers redrawn).trans added
  have log : (after.channel index).log =
      Channel.newest limit ((before.channel index).log ++ [message]) := by
    rw [log_of_ledger present, ← agrees.limits index ledger present]
    exact log_of_ledger (by rw [ledgers, List.getElem?_set_self within])
  obtain ⟨-, shown, loaded, named⟩ := agrees.of_find? ((find?_chronicle _ _).trans found)
  obtain rfl := Option.some.inj (present.symm.trans loaded)
  have author : message.author = before.intake.identity submission.identity := by
    rw [numbers.same]
    rfl
  have text : message.text = submission.cleanText before := by
    rw [numbers.same]
    rfl
  rw [← author, ← text] at appending
  exact
    { live := found
      named := (congrArg Channel.Ledger.name (ledger_channel present)).trans named
      kind := by rw [numbers.same]; rfl
      author
      text
      visible := text ▸ visible
      log
      last := by rw [log, getLast?_newest positive, List.getLast?_concat]
      others := fun other differ =>
        log_of_getElem? (by rw [ledgers, List.getElem?_set_ne (Ne.symm differ)])
      redrawn := ⟨answer, appended, published, appending, refreshing⟩
      rest }

/-- A message is kept by an archive that holds no number above its own. -/
theorem stored_of_append (positive : 0 < limit) {held : Account}
    {chronicle : Chronicle} (agrees : chronicle.Agrees limit oldest held) {index : Nat}
    {ledger : Channel.Ledger} {message : Message} {backend : Archive.Backend}
    (begun : oldest ≤ index) (present : chronicle.ledgers[index]? = some ledger)
    (isOpen : ledger.closed = false) (notBelow : ledger.lastId ≤ message.id)
    (kept : chronicle.backend.append ledger.name message message.time ledger.limit =
      .ok backend) :
    Stored ledger.name message chronicle.backend backend := by
  rcases agrees.held.append ledger.name message message.time ledger.limit with
    ⟨next, appended, holds⟩
  obtain rfl : next = backend := by simpa [kept] using appended.symm
  rw [agrees.limits index ledger present] at holds
  have last : (Channel.newest limit (Archive.place message
      (Channel.newest limit (held.of ledger.name)))).getLast? = some message := by
    rw [getLast?_newest positive]
    refine Archive.getLast?_place ((agrees.increasing _).newest limit) fun other member => ?_
    exact UInt64.le_trans (agrees.ahead index ledger begun present isOpen other
      (Archive.mem_of_mem_newest member)) notBelow
  constructor
  case last =>
    rw [holds.records, Archive.Contents.add_same, List.getLast?_map, last]
    rfl
  case given =>
    intro history given
    rw [holds.eq_of_load given, Archive.Contents.add_same, last]
  case earlier =>
    intro record member
    rw [holds.records, Archive.Contents.add_same] at member
    rcases List.mem_map.mp member with ⟨other, among, rfl⟩
    rcases Archive.mem_place (Archive.mem_of_mem_newest among) with rfl | old
    · exact .inl rfl
    · exact .inr (agrees.held.records _ ▸ List.mem_map_of_mem old)
  case others =>
    intro other differ
    rw [holds.records, agrees.held.records, Archive.Contents.add_of_ne _ differ]

/-- What passed the checks is shown, and it is kept or the archive is as it was. -/
theorem outcome_of_post (positive : 0 < limit) {held : Account}
    (agrees : before.chronicle.Agrees limit oldest held) {guard : Token.Guard} {index : Nat}
    {reply : Except Refused Accepted} (granted : Grants before.intake submission guard)
    (found : before.find? (submission.target before) = some index)
    (visible : Text.allBlank (submission.cleanText before) = false)
    (ends : Ends
      (post index (.written (before.intake.identity submission.identity)
        (submission.cleanText before)))
      (before.admitting submission.address guard) (.ok reply) after) :
    Outcome limit submission before reply after := by
  have rest := ends.keeps ((roomless_withRoomsOf before).post index _)
  rcases ends_post_redrawn ends with ⟨answer, appended, appending, drawn⟩
  have change := ends_append appending
  rw [chronicle_admitting] at change
  have standing := (find?_chronicle before _).trans found
  have isOpen := (Option.filter_eq_some_iff.mp standing).2
  rcases agrees.of_find? standing with ⟨begun, ledger, present, named⟩
  replace isOpen : ledger.closed = false := by simpa [Chronicle.isClosed, present] using isOpen
  -- What is drawn again has the chronicle that the append left.
  have drawnSame {published : Bool}
      (refreshing : Ends (refresh index) appended (.ok published) after) :
      after.archive.backend = appended.chronicle.backend :=
    congrArg Chronicle.backend (refreshing.keeps (keeps_refresh index))
  generalize became : appended.chronicle = middle at change drawnSame
  cases change with
  | refused closed =>
      rw [closed ledger present] at isOpen
      cases isOpen
  | noted _ _ _ presence => exact absurd rfl presence
  | @kept appended numbered backend loaded _ numbers _ kept =>
      obtain rfl := Option.some.inj (present.symm.trans loaded)
      rcases drawn with closed | ⟨published, refreshing, ⟨_, same, rfl⟩ | ⟨_, other, -⟩⟩
      · cases closed
      · obtain rfl := Except.ok.inj same
        have stored := stored_of_append positive agrees begun present isOpen numbers.notBelow kept
        rw [named] at stored
        refine .posted granted (shown_of_add positive agrees found present visible numbers
          appending (congrArg Chronicle.ledgers became) refreshing rest) ?_
        rw [drawnSame refreshing]
        exact stored
      · cases other
  | @lost appended numbered fault loaded _ numbers _ =>
      obtain rfl := Option.some.inj (present.symm.trans loaded)
      rcases drawn with closed | ⟨published, refreshing, ⟨_, other, -⟩ | ⟨_, same, rfl⟩⟩
      · cases closed
      · cases other
      · refine .lost _ granted (shown_of_add positive agrees found present visible numbers
          appending (congrArg Chronicle.ledgers became) refreshing rest) ?_
        exact drawnSame refreshing

/-! ## Submissions -/

theorem steady_post (index : Nat) (message : Message) : Steady (post index message) := by
  have redrawn (reply : Except Refused Accepted) :
      Steady (do discard (refresh index); return reply) :=
    Steady.bind (steady_discard (steady_refresh index)) fun _ => Steady.pure _
  refine Steady.bind (steady_append index message) fun answer => ?_
  cases answer with
  | ok numbered => exact redrawn _
  | error fault =>
      cases fault with
      | closed => exact Steady.pure _
      | archive fault => exact redrawn _

theorem steady_checkToken (submission : Submission) : Steady (checkToken submission) := by
  refine Steady.bind (Steady.ask _) fun intake => ?_
  split
  · exact Steady.bind Steady.now fun now => Steady.act _
  · exact Steady.pure _

/-- A submission is answered whenever the clock can be read. -/
theorem steady_submit (submission : Submission) : Steady (submit submission) := by
  refine Steady.bind (Steady.act _) fun passes => ?_
  cases passes with
  | false => exact Steady.pure _
  | true =>
      refine Steady.bind (steady_checkToken submission) fun verdict => ?_
      cases verdict with
      | error refusal => exact Steady.pure _
      | ok granted =>
          refine Steady.bind (Steady.ask _) fun service => ?_
          dsimp only
          split
          · exact Steady.pure _
          · split
            · exact Steady.pure _
            · exact steady_post _ _

/-- A submission that was let pass goes through the other checks in their order. -/
theorem outcome_of_consider (positive : 0 < limit) {held : Account}
    (agrees : before.chronicle.Agrees limit oldest held) {reply : Except Refused Accepted}
    (ends : Ends (consider submission)
      { before with intake := before.intake.noting submission.address before.uptime }
      (.ok reply) after) :
    Outcome limit submission before reply after := by
  rcases ends_bind.mp ends with ⟨verdict, checked, checking, ends⟩
  rcases ends_checkToken_guard checking with ⟨guard, same, judged⟩
  replace same : checked = before.admitting submission.address guard := same
  rw [Intake.limits_noting, Intake.guard_noting] at judged
  rcases judged with ⟨rfl, spent, unasked⟩ | ⟨refusal, rfl, wanted, rejects⟩
  · rw [Intake.limits_noting, Intake.guard_noting] at spent unasked
    have granted : Grants before.intake submission guard := ⟨spent, unasked⟩
    replace ends := ends_ask_bind.mp ends
    have target : checked.intake.channelName submission.channel = submission.target before := by
      rw [same, Intake.channelName, limits_admitting]
      rfl
    have text : Intake.cleanMessage submission.text checked.intake.limits.maxMessageBytes
        checked.intake.limits.maxMessageLines = submission.cleanText before := by
      rw [same, limits_admitting]
      rfl
    have identity : checked.intake.identity submission.identity =
        before.intake.identity submission.identity := by
      rw [same, Intake.identity, limits_admitting]
      rfl
    have names : checked.find? (submission.target before) =
        before.find? (submission.target before) := by
      rw [same]
      rfl
    dsimp only [id] at ends
    rw [target, text, identity, names] at ends
    cases found : before.find? (submission.target before) with
    | none =>
        rw [found] at ends
        rcases ends_pure.mp ends with ⟨rfl, rfl⟩
        rw [same]
        exact .dropped granted found
    | some index =>
        rw [found] at ends
        dsimp only at ends
        split at ends
        case isTrue blank =>
          rcases ends_pure.mp ends with ⟨rfl, rfl⟩
          rw [same]
          exact .ignored granted found blank
        case isFalse visible =>
          rw [same] at ends
          exact outcome_of_post positive agrees granted found (Bool.eq_false_iff.mpr visible) ends
  · rcases ends_pure.mp ends with ⟨rfl, rfl⟩
    rw [same]
    exact .refused wanted rejects

/--
In a service that came about by any requests, one after the other, every submission is answered
if the clock can be read, and each answer comes with its own changes: nothing, if the address
has to wait; else the address has to wait from then on.  A token that is refused is not spent,
and one that is granted is.  What passes all checks is shown as one message at the end of the
log of its channel, and the channel is drawn again; it is kept, or the archive is as it was.
-/
theorem Run.submit_outcome {service : Service} {account : Account}
    (run : Run limit oldest service account) (positive : 0 < limit) (submission : Submission) :
    (∀ time : Service → Seconds, ∃ reply,
      ((submit submission).run (fun state => some (time state)) service).1 = .ok reply) ∧
    ∀ reply after, Ends (submit submission) service (.ok reply) after →
      Outcome limit submission service reply after := by
  refine ⟨fun time => (steady_submit submission).run time service, fun reply after ends => ?_⟩
  rcases run.exists_agrees positive with ⟨held, agrees⟩
  rcases ends_submit_of_pass ends with ⟨passes, ends⟩ | ⟨waits, same, unchanged⟩
  · rw [Intake.pass_of_true passes] at ends
    exact outcome_of_consider positive agrees ends
  · obtain rfl := Except.ok.inj same
    rw [unchanged, Intake.pass_of_false waits]
    exact .waits waits

/-- A message is posted to a channel that was opened before. -/
theorem submit_outcome_of_posting :
    ∃ service account message after, Run 50 0 service account ∧
      Ends (submit (fromAddress 1)) service (.ok (.ok (.posted message))) after ∧
      Outcome 50 (fromAddress 1) service (.ok (.posted message)) after := by
  have begun : Run 50 0 bare [] := .start _ _ _ _ .memory rfl
  have started : Run 50 0 forgetful [] := begun.meanwhile rfl
  have opened : (Service.run (openChannel "lobby") forgetful).1 = .ok (.ok 0) := rfl
  have run := started.request (.openChannel (.of_run opened))
  obtain ⟨message, posted⟩ : ∃ message, (Service.run (submit (fromAddress 1))
      (Service.run (openChannel "lobby") forgetful).2).1 = .ok (.ok (.posted message)) := ⟨_, rfl⟩
  exact ⟨_, _, message, _, run, .of_run posted,
    (run.submit_outcome (by decide) (fromAddress 1)).2 _ _ (.of_run posted)⟩

end Service

end FrameChat
