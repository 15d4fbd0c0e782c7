import FrameChat.Proofs.Archive.Records
import FrameChat.Proofs.Intake.Texts
import FrameChat.Proofs.Operation.Upheld
import FrameChat.Proofs.Service.Pacing

/-!
# What is written anywhere

Messages enter a service through submissions, and through those who come and go.  Nothing
else writes to a log, but for what a channel is loaded with, and that was in a log before it
was in the archive.  So what the intake does to a message on its way in is true of every
message in every log and of every record of the archive, whatever happens between the steps
of operations, and for as many processes as use the archive.

An operation is *regular* if it is made of submissions, joins, leaves and openings of
channels, and of steps that write nothing.  `Regular.upholds` is the step lemma of the
invariant `Presentable`, and `Regulated.written_admissible` says what it comes to.
-/

namespace FrameChat.Service

open Operation

/-- What is written in a service, and the limits by which: the archive, and all logs. -/
def writings (service : Service) : Intake.Limits × Archive.Backend × List (List Message) :=
  (service.intake.limits, service.chronicle.backend,
    service.chronicle.ledgers.map Channel.Ledger.log)

/-- All that is written in a service came in through an intake with given limits. -/
structure Presentable (limits : Intake.Limits) (service : Service) : Prop where
  sameLimits : service.intake.limits = limits
  logs : ∀ log ∈ service.chronicle.ledgers.map Channel.Ledger.log, ∀ message ∈ log,
    limits.Loggable message
  archive : ∃ contents : Archive.Contents, service.chronicle.backend.Holds contents ∧
    ∀ name, ∀ message ∈ contents name, message.kind = .text ∧ limits.Admissible message

variable {limits : Intake.Limits} {before after : Service}

theorem Presentable.of_writings (presentable : Presentable limits before)
    (same : after.writings = before.writings) : Presentable limits after := by
  rcases Prod.mk.inj same with ⟨sameLimits, written⟩
  rcases Prod.mk.inj written with ⟨sameBackend, sameLogs⟩
  exact ⟨sameLimits.trans presentable.sameLimits, sameLogs ▸ presentable.logs,
    sameBackend ▸ presentable.archive⟩

/-! ## What writes nothing -/

/-- A step on a channel that leaves its log as it is. -/
theorem writings_withChannel {α : Type} {act : Channel → α × Channel}
    (same : ∀ channel, (act channel).2.ledger.log = channel.ledger.log) (index : Nat)
    (service : Service) : (withChannel index act service).2.writings = service.writings := by
  have logs : (withChannel index act service).2.chronicle.ledgers.map Channel.Ledger.log =
      service.chronicle.ledgers.map Channel.Ledger.log := by
    rw [chronicle_withChannel, Chronicle.set, List.map_set, same]
    by_cases loaded : index < service.chronicle.ledgers.length
    · have within : index < (service.chronicle.ledgers.map Channel.Ledger.log).length := by simpa
      have here : (service.chronicle.ledgers.map Channel.Ledger.log)[index] =
          (service.channel index).ledger.log := by
        rw [List.getElem_map, ledger_channel (List.getElem?_eq_getElem loaded)]
      rw [← here]
      exact List.set_getElem_self within
    · exact List.set_eq_of_length_le (by simpa using loaded)
  rw [writings, logs]
  rfl

theorem keeps_writings_onChannel {α : Type} {act : Channel → α × Channel}
    (same : ∀ channel, (act channel).2.ledger.log = channel.ledger.log) (index : Nat) :
    Keeps writings (onChannel index act) :=
  Keeps.act fun service => writings_withChannel same index service

theorem faceless_writings : Faceless writings := fun _ _ => rfl

theorem keeps_writings_refresh (index : Nat) : Keeps writings (refresh index) := by
  apply keeps_refresh_of faceless_writings
  · intro service instant
    exact writings_withChannel (fun _ => rfl) index service
  · intro service version drawn renderMs
    exact writings_withChannel
      (fun channel => congrArg Channel.Ledger.log
        (channel.ledger_publish version drawn renderMs)) index service

/-- Those who see the chronicle and the limits see all that is written. -/
theorem keeps_writings_of {α : Type} {operation : Op α}
    (keeps : Keeps chronicleAndLimits operation) : Keeps writings operation :=
  keeps.part fun (chronicle, limits) =>
    (limits, chronicle.backend, chronicle.ledgers.map Channel.Ledger.log)

theorem keeps_writings_randomBytes (count : Nat) : Keeps writings (randomBytes count) :=
  Keeps.act fun _ => rfl

theorem keeps_writings_startRefreshTimer (index : Nat) :
    Keeps writings (startRefreshTimer index) :=
  Keeps.modify fun _ => rfl

theorem keeps_writings_close (index : Nat) :
    Keeps writings (onChannel index fun channel => ((), channel.close)) := by
  refine keeps_writings_onChannel (fun channel => ?_) index
  rw [Channel.ledger_close]
  rfl

theorem writings_of_swept {closing : Nat → Bool}
    (sameLimits : after.intake.limits = before.intake.limits)
    (swept : before.chronicle.Swept after.chronicle closing) : after.writings = before.writings := by
  have logs : after.chronicle.ledgers.map Channel.Ledger.log =
      before.chronicle.ledgers.map Channel.Ledger.log := by
    refine List.ext_getElem? fun index => ?_
    rw [List.getElem?_map, List.getElem?_map, swept.ledgers, Option.map_map]
    rfl
  rw [writings, writings, sameLimits, swept.backend, logs]

theorem keeps_writings_purge : Keeps writings purge := by
  refine Keeps.act fun service => ?_
  rcases ends_purge (ends_act.mpr ⟨rfl, rfl⟩ : Ends purge service (.ok _) _) with ⟨closing, swept⟩
  exact writings_of_swept rfl swept

/-! ## What writes -/

theorem upholds_of_keeps_writings {α : Type} {operation : Op α} (keeps : Keeps writings operation) :
    Upholds (Presentable limits) (fun _ => True) operation :=
  .of_keeps keeps fun _ _ same presentable => presentable.of_writings same

/-- A message that is added to a log is one that may stand there. -/
theorem Presentable.record (presentable : Presentable limits before) {message : Message}
    (loggable : limits.Loggable message) (index : Nat) (now : Seconds) :
    Presentable limits (withChannel index (·.record now message) before).2 ∧
      ∀ numbered, (withChannel index (·.record now message) before).1 = some numbered →
        limits.Loggable numbered := by
  have answer : (withChannel index (·.record now message) before).1 =
      ((before.channel index).record now message).1 := rfl
  have stepped := chronicle_withChannel index (·.record now message) before
  have sameLimits : (withChannel index (·.record now message) before).2.intake.limits = limits :=
    presentable.sameLimits
  rw [answer]
  cases closed : (before.channel index).closed with
  | true =>
      have nothing := Channel.record_of_closed closed now message
      refine ⟨presentable.of_writings ?_, by rw [nothing]; exact nofun⟩
      rw [writings, chronicle_withChannel_of_ledger (by rw [nothing])]
      rfl
  | false =>
      have present := getElem?_of_open closed
      rcases Channel.record_of_open closed now message with
        ⟨numbered, recorded, -, numbers, added⟩
      have fits : limits.Loggable numbered := by
        rw [numbers.same]
        exact loggable.numbered _ _
      rw [added] at stepped
      refine ⟨⟨sameLimits, ?_, ?_⟩, ?_⟩
      · rw [stepped]
        intro log among other member
        rcases List.mem_map.mp among with ⟨ledger, stands, rfl⟩
        rcases List.mem_or_eq_of_mem_set stands with old | rfl
        · exact presentable.logs _ (List.mem_map_of_mem old) other member
        · rcases List.mem_append.mp (Archive.mem_of_mem_newest member) with old | new
          · exact presentable.logs _
              (List.mem_map_of_mem (List.mem_of_getElem? present)) other old
          · rw [List.mem_singleton.mp new]
            exact fits
      · rw [stepped]
        exact presentable.archive
      · rw [recorded]
        rintro _ ⟨⟩
        exact fits

/-- A written message that the archive keeps is an admissible one. -/
theorem Presentable.keep (presentable : Presentable limits before) {message : Message}
    (kind : message.kind = .text) (admissible : limits.Admissible message) (name : String)
    (active : Seconds) (keep : Nat) :
    Presentable limits (withArchive (·.append name message active keep) before).2 := by
  rcases withArchive_append before name message active keep with
    ⟨backend, kept, -, next⟩ | ⟨fault, -, next⟩
  · rcases presentable.archive with ⟨contents, holds, clean⟩
    rcases holds.append name message active keep with ⟨other, appended, nextHolds⟩
    obtain rfl : other = backend := by simpa [kept] using appended.symm
    refine ⟨presentable.sameLimits, ?_, contents.add name message keep, ?_, ?_⟩
    · rw [next]
      exact presentable.logs
    · rw [next]
      exact nextHolds
    · intro channel held member
      by_cases here : channel = name
      · rw [here, Archive.Contents.add_same] at member
        rcases Archive.mem_place (Archive.mem_of_mem_newest member) with rfl | old
        · exact ⟨kind, admissible⟩
        · exact clean name held old
      · rw [Archive.Contents.add_of_ne _ here] at member
        exact clean channel held member
  · refine presentable.of_writings ?_
    rw [writings, next]
    rfl

/-- A channel is loaded with what the archive has of it. -/
theorem Presentable.given (presentable : Presentable limits before) {name : String}
    {history : List Message} (given : before.archive.backend.load name = .ok history) :
    ∀ message ∈ history, message.kind = .text ∧ limits.Admissible message := by
  rcases presentable.archive with ⟨contents, holds, clean⟩
  rw [holds.eq_of_load given]
  exact clean name

/-- An instance begins with a log of what it was given. -/
theorem Presentable.push (presentable : Presentable limits before) {history : List Message}
    (clean : ∀ message ∈ history, message.kind = .text ∧ limits.Admissible message)
    {channel : Channel} {name : String} {limit : Nat}
    (begins : channel.ledger = .ofHistory name limit history) :
    Presentable limits { before with channels := before.channels.push channel } := by
  refine ⟨presentable.sameLimits, ?_, presentable.archive⟩
  have pushed : Service.chronicle { before with channels := before.channels.push channel } =
      before.chronicle.push channel.ledger := by simp [chronicle, Chronicle.push]
  rw [pushed, Chronicle.push, List.map_append]
  intro log among message member
  rcases List.mem_append.mp among with old | new
  · exact presentable.logs log old message member
  · obtain rfl := List.mem_singleton.mp new
    rw [begins] at member
    have held := clean message (Archive.mem_of_mem_newest member)
    exact held.2.loggable held.1

theorem upholds_writing_append (index : Nat) {message : Message}
    (loggable : limits.Loggable message) :
    Upholds (Presentable limits) (fun _ => True) (append index message) := by
  refine Upholds.now.bind fun now _ => ?_
  refine Upholds.bind (?_ : Upholds _ (fun recorded => ∀ numbered, recorded = some numbered →
    limits.Loggable numbered) _) fun recorded fits => ?_
  · exact .act fun service presentable => presentable.record loggable index now
  cases recorded with
  | none => exact .pure trivial
  | some numbered =>
      dsimp only
      split
      case isTrue kind =>
        refine (upholds_of_keeps_writings (Keeps.ask _)).bind fun settings _ => ?_
        refine Upholds.bind (?_ : Upholds _ (fun _ => True) _) fun answer _ => ?_
        · exact .act fun service presentable =>
            ⟨presentable.keep kind ((fits numbered rfl).written kind) _ _ _, trivial⟩
        cases answer <;> exact .pure trivial
      case isFalse => exact .pure trivial

theorem upholds_writing_addInstance (name : String) {history : List Message}
    (clean : ∀ message ∈ history, message.kind = .text ∧ limits.Admissible message)
    (active : Seconds) :
    Upholds (Presentable limits) (fun _ => True) (addInstance name history active) := by
  have drawn (viewport : Viewport) (text : String) :
      Upholds (Presentable limits) (fun _ => True) (renderNotice viewport text) :=
    upholds_of_keeps_writings (keeps_renderNotice faceless_writings viewport text)
  refine (drawn _ _).bind fun narrow _ => (drawn _ _).bind fun wide _ => ?_
  refine (upholds_of_keeps_writings (keeps_writings_randomBytes 8)).bind fun random _ => ?_
  refine Upholds.bind (?_ : Upholds _ (fun _ => True) _) fun channel _ => ?_
  · exact .act fun service presentable =>
      ⟨presentable.push clean (Channel.ledger_ofHistory ..), trivial⟩
  exact (upholds_of_keeps_writings (keeps_writings_refresh channel)).discard.bind
    fun _ _ => .pure trivial

theorem upholds_writing_load (name : String) :
    Upholds (Presentable limits) (fun _ => True) (load name) := by
  refine Upholds.bind (?_ : Upholds _ (fun answer => ∀ history, answer = .ok history →
    ∀ message ∈ history, message.kind = .text ∧ limits.Admissible message) _)
    fun answer clean => ?_
  · refine .act fun service presentable => ⟨presentable.of_writings rfl, ?_⟩
    intro history answered
    rcases backend_ask service.archive (·.load name) with ⟨-, failed | given⟩
    · have refused : Except.ok history = .error Archive.Fault.injected := answered.symm.trans failed
      cases refused
    · exact presentable.given (given.symm.trans answered)
  · cases answer with
    | error fault => exact .pure trivial
    | ok history =>
        refine (upholds_of_keeps_writings (Keeps.act fun _ => rfl)).bind fun stored _ => ?_
        cases stored with
        | error fault => exact .pure trivial
        | ok stored =>
            cases stored with
            | some active => exact upholds_writing_addInstance name (clean history rfl) active
            | none => exact Upholds.now.bind fun now _ =>
                upholds_writing_addInstance name (clean history rfl) now

theorem upholds_writing_openChannel (name : String) :
    Upholds (Presentable limits) (fun _ => True) (openChannel name) := by
  rw [openChannel]
  split
  · exact .pure trivial
  refine (upholds_of_keeps_writings (Keeps.ask _)).bind fun found _ => ?_
  cases found with
  | some existing => exact .pure trivial
  | none =>
      refine (upholds_writing_load name).bind fun answer _ => ?_
      cases answer with
      | error fault => exact .pure trivial
      | ok loaded =>
          refine (upholds_of_keeps_writings (Keeps.act fun _ => rfl)).bind fun existing _ => ?_
          cases existing with
          | none =>
              exact (upholds_of_keeps_writings (keeps_writings_startRefreshTimer loaded)).bind
                fun _ _ => .pure trivial
          | some existing =>
              exact (upholds_of_keeps_writings (keeps_writings_close loaded)).bind
                fun _ _ => .pure trivial

theorem upholds_writing_join (index : Nat) (identity : String) (viewport : Viewport)
    (address : Net.Address) :
    Upholds (Presentable limits) (fun _ => True) (join index identity viewport address) := by
  have entering : Keeps writings (onChannel index (·.enter identity viewport address)) :=
    keeps_writings_onChannel (fun channel => congrArg Channel.Ledger.log
      (channel.ledger_enter identity viewport address)) index
  refine (upholds_of_keeps_writings entering).bind fun entry _ => ?_
  have redrawn (session : Nat) : Upholds (Presentable limits) (fun _ => True)
      (do discard (refresh index); return Joined.joined session) :=
    (upholds_of_keeps_writings (keeps_writings_refresh index)).discard.bind
      fun _ _ => .pure trivial
  cases entry with
  | closed => exact .pure trivial
  | rejected =>
      exact (upholds_of_keeps_writings (keeps_renderNotice faceless_writings _ _)).bind
        fun notice _ => .pure trivial
  | entered session displaced =>
      cases displaced with
      | true => exact redrawn session
      | false =>
          have announced : limits.Loggable (.presence identity .join) :=
            Intake.loggable_presence identity (by decide)
          exact (upholds_writing_append index announced).discard.bind fun _ _ => redrawn session

theorem upholds_writing_leave (index session : Nat) :
    Upholds (Presentable limits) (fun _ => True) (leave index session) := by
  have removing : Keeps writings (onChannel index (·.remove session)) :=
    keeps_writings_onChannel (fun channel => congrArg Channel.Ledger.log
      (channel.ledger_remove session)) index
  refine (upholds_of_keeps_writings removing).bind fun removed _ => ?_
  cases removed with
  | none => exact .pure trivial
  | some viewer =>
      have closing : Keeps writings
          (onChannel index fun channel => ((), channel.closeMailbox session)) :=
        keeps_writings_onChannel (fun _ => rfl) index
      refine (upholds_of_keeps_writings closing).bind fun _ _ => ?_
      have announced : limits.Loggable (.presence viewer.identity .leave) :=
        Intake.loggable_presence viewer.identity (by decide)
      exact (upholds_writing_append index announced).discard.bind fun _ _ =>
        (upholds_of_keeps_writings (keeps_writings_refresh index)).discard

theorem upholds_writing_post (index : Nat) {message : Message}
    (loggable : limits.Loggable message) :
    Upholds (Presentable limits) (fun _ => True) (post index message) := by
  have redrawn (reply : Except Refused Accepted) : Upholds (Presentable limits) (fun _ => True)
      (do discard (refresh index); return reply) :=
    (upholds_of_keeps_writings (keeps_writings_refresh index)).discard.bind
      fun _ _ => .pure trivial
  refine (upholds_writing_append index loggable).bind fun answer _ => ?_
  cases answer with
  | ok numbered => exact redrawn _
  | error fault =>
      cases fault with
      | closed => exact .pure trivial
      | archive fault => exact redrawn _

/-- What is submitted is cleaned by the limits, and dropped if nothing of it can be seen. -/
theorem upholds_writing_submit (submission : Submission) :
    Upholds (Presentable limits) (fun _ => True) (submit submission) := by
  refine (upholds_of_keeps_writings
    (keeps_writings_of (keeps_passAddress _))).bind fun passes _ => ?_
  cases passes with
  | false => exact .pure trivial
  | true =>
      refine (upholds_of_keeps_writings
        (keeps_writings_of (keeps_checkToken submission))).bind fun verdict _ => ?_
      cases verdict with
      | error refusal => exact .pure trivial
      | ok granted =>
          refine Upholds.bind
            (?_ : Upholds _ (fun service => service.intake.limits = limits) _)
            fun service sameLimits => ?_
          · exact .ask fun _ presentable => presentable.sameLimits
          dsimp only
          split
          · exact .pure trivial
          · split
            case isTrue => exact .pure trivial
            case isFalse visible =>
              subst sameLimits
              exact upholds_writing_post _ ((Intake.admissible_written visible).loggable rfl)

/-! ## Regular operations -/

/--
An operation by which messages enter through submissions and through those who come and go
only.  It is made of these, and of what writes nothing, in any way.
-/
inductive Regular : {α : Type} → Op α → Prop where
  | idle {α : Type} {operation : Op α} : Keeps writings operation → Regular operation
  | openChannel (name : String) : Regular (openChannel name)
  | submit (submission : Submission) : Regular (submit submission)
  | join (index : Nat) (identity : String) (viewport : Viewport) (address : Net.Address) :
      Regular (join index identity viewport address)
  | leave (index session : Nat) : Regular (leave index session)
  | bind {α β : Type} {first : Op α} {rest : α → Op β} :
      Regular first → (∀ value, Regular (rest value)) → Regular (first >>= rest)
  | attempt {α : Type} {operation : Op α} : Regular operation → Regular operation.attempt

theorem Regular.upholds {α : Type} {operation : Op α} (regular : Regular operation) :
    Upholds (Presentable limits) (fun _ => True) operation := by
  induction regular with
  | idle keeps => exact upholds_of_keeps_writings keeps
  | openChannel name => exact upholds_writing_openChannel name
  | submit submission => exact upholds_writing_submit submission
  | join index identity viewport address =>
      exact upholds_writing_join index identity viewport address
  | leave index session => exact upholds_writing_leave index session
  | bind _ _ head tail => exact head.bind fun value _ => tail value
  | attempt _ ih => simpa using ih.attempt

theorem Regular.discard {α : Type} {operation : Op α} (regular : Regular operation) :
    Regular (discard operation) :=
  regular.bind fun _ => .idle (Keeps.pure _)

/-- Nothing was written in a service yet, whose intake has given limits. -/
structure Unwritten (limits : Intake.Limits) (service : Service) : Prop where
  sameLimits : service.intake.limits = limits
  channels : service.channels = #[]
  archive : service.archive.backend.Blank

/--
What a service may come to by regular operations, of which any number are begun and take their
steps in any order.  In between anything may happen that is not written: the clock may be set,
faults may be put before the archive, and the service may be started again.
-/
abbrev Regulated (limits : Intake.Limits) : Service → List (Op Unit) → Prop :=
  Interleaved (Unwritten limits) (fun before after => after.writings = before.writings)
    fun operation => Regular operation

theorem Unwritten.presentable {service : Service} (unwritten : Unwritten limits service) :
    Presentable limits service := by
  refine ⟨unwritten.sameLimits, fun log among => ?_, .none, unwritten.archive.holds,
    fun _ _ member => absurd member List.not_mem_nil⟩
  rw [chronicle, unwritten.channels] at among
  exact absurd among List.not_mem_nil

/-- A service that is started again has the logs, the archive and the limits that it had. -/
theorem writings_restart (service : Service) : service.restart.writings = service.writings := by
  rw [restart]
  rcases Entropy.bytes keyLength service.entropy with ⟨key, rest⟩
  rfl

/--
Whatever regular operations come to, every written message in a log or in the archive is as
the limits admit it: its author is short and has the characters of names only, and its text
has not too many bytes or lines, no carriage returns, and something to be seen.  Notices of
presence have no text, and stand in logs only.
-/
theorem Regulated.written_admissible {service : Service} {left : List (Op Unit)}
    (regulated : Regulated limits service left) :
    (∀ index, ∀ message ∈ (service.channel index).log,
      (message.kind = .text → limits.Admissible message) ∧
        (message.kind ≠ .text → message.text = "")) ∧
    (∀ name, ∀ record ∈ service.archive.backend.records name, ∃ message : Message,
      record = Message.Record.encode message ∧ message.kind = .text ∧
        limits.Admissible message) ∧
    ∀ name history, service.archive.backend.load name = .ok history →
      ∀ message ∈ history, message.kind = .text ∧ limits.Admissible message := by
  have presentable : Presentable limits service :=
    (regulated.sound (fun _ unwritten => unwritten.presentable)
      (fun _ _ same presentable => presentable.of_writings same)
      fun _ regular => regular.upholds).1
  refine ⟨fun index message member => ?_, fun name record member => ?_,
    fun name history given => presentable.given given⟩
  · have ledger := ledger_channel_eq service index
    rw [show (service.channel index).log = (service.channel index).ledger.log from rfl, ledger]
      at member
    cases present : service.chronicle.ledgers[index]? with
    | none =>
        rw [present] at member
        cases member
    | some found =>
        rw [present] at member
        have loggable := presentable.logs _ (List.mem_map_of_mem (List.mem_of_getElem? present))
          message member
        exact ⟨loggable.written, loggable.presence⟩
  · rcases presentable.archive with ⟨contents, holds, clean⟩
    have records : service.archive.backend.records name = (contents name).map _ :=
      holds.records name
    rw [records] at member
    rcases List.mem_map.mp member with ⟨message, held, rfl⟩
    exact ⟨message, rfl, clean name message held⟩

/-- A service with a channel to which one message was posted. -/
def talking : Service :=
  (Service.run (Service.submit (fromAddress 1))
    (Service.run (Service.openChannel "lobby") forgetful).2).2

theorem regulated_talking : ∃ left, Regulated forgetful.intake.limits talking left := by
  have opening : (Service.run (Service.openChannel "lobby") forgetful).1 = .ok (.ok 0) := rfl
  obtain ⟨message, posting⟩ : ∃ message, (Service.run (Service.submit (fromAddress 1))
      (Service.run (Service.openChannel "lobby") forgetful).2).1 =
        .ok (.ok (.posted message)) := ⟨_, rfl⟩
  have begun : Regulated forgetful.intake.limits forgetful [] := .start ⟨rfl, rfl, .memory⟩
  rcases begun.complete (Regular.openChannel "lobby").discard
    (ends_discard.mpr ⟨_, .of_run opening⟩) with ⟨_, running⟩
  rcases running.complete (Regular.submit (fromAddress 1)).discard
    (ends_discard.mpr ⟨_, .of_run posting⟩) with ⟨_, running⟩
  exact ⟨_, running⟩

/-- A channel is loaded again after a restart, with a message that was posted before. -/
theorem written_admissible_of_reloaded :
    ∃ service left message, Regulated forgetful.intake.limits service left ∧
      message ∈ (service.channel 1).log ∧ message.kind = .text ∧
      forgetful.intake.limits.Admissible message := by
  have again : (Service.run (Service.openChannel "lobby") talking.restart).1 = .ok (.ok 1) := by
    decide +kernel
  have logged : (((Service.run (Service.openChannel "lobby") talking.restart).2.channel 1).log.map
      Message.kind) = [.text] := by
    decide +kernel
  rcases regulated_talking with ⟨_, running⟩
  rcases (running.meanwhile (writings_restart _)).complete (Regular.openChannel "lobby").discard
    (ends_discard.mpr ⟨_, .of_run again⟩) with ⟨_, running⟩
  obtain ⟨message, member, kind⟩ := List.mem_map.mp (logged ▸ List.mem_singleton_self _)
  exact ⟨_, _, message, running, member, kind,
    ((Regulated.written_admissible running).1 1 message member).1 kind⟩

end FrameChat.Service
