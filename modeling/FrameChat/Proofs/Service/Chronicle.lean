import FrameChat.Proofs.Channel.Ledger
import FrameChat.Proofs.Operation.Whole
import FrameChat.Service.Rooms

/-!
# The chronicle of a service

The histories of channels depend on four parts of a service: how many messages
are kept, what its archive keeps them in, the ledgers of all instances, and the
entries of the directory.  Together they are its chronicle.  Random bytes,
faults to come, pictures and viewers are not in it, so that drawing a channel
again keeps the chronicle (`keeps_refresh`).

Two operations write to it by themselves, and `ends_append` and `ends_load` say
how.  An append gives its message a number before the archive is asked, so that
a message may be in the log and not in the archive, but not the other way.
-/

namespace FrameChat

/-- The part of a service on which the histories of its channels depend. -/
structure Chronicle where
  limit : Nat
  backend : Archive.Backend
  /-- the ledger of every instance, in the order in which they were loaded -/
  ledgers : List Channel.Ledger
  entries : List (String × Nat)

namespace Chronicle

def set (chronicle : Chronicle) (index : Nat) (ledger : Channel.Ledger) : Chronicle :=
  { chronicle with ledgers := chronicle.ledgers.set index ledger }

def push (chronicle : Chronicle) (ledger : Channel.Ledger) : Chronicle :=
  { chronicle with ledgers := chronicle.ledgers ++ [ledger] }

/-- How an append to an instance ends, and what it makes of the chronicle. -/
inductive Appended (index : Nat) (message : Message) (before : Chronicle) :
    Except Service.AppendFault Message → Chronicle → Prop where
  /-- the instance is closed, or there is none -/
  | refused :
      (∀ ledger, before.ledgers[index]? = some ledger → ledger.closed = true) →
        Appended index message before (.error .closed) before
  /-- a notice of presence is not for the archive -/
  | noted {ledger : Channel.Ledger} {numbered : Message} :
      before.ledgers[index]? = some ledger → ledger.closed = false →
        ledger.Numbers message numbered → message.kind ≠ .text →
        Appended index message before (.ok numbered) (before.set index (ledger.add numbered))
  | kept {ledger : Channel.Ledger} {numbered : Message} {backend : Archive.Backend} :
      before.ledgers[index]? = some ledger → ledger.closed = false →
        ledger.Numbers message numbered → message.kind = .text →
        before.backend.append ledger.name numbered numbered.time ledger.limit = .ok backend →
        Appended index message before (.ok numbered)
          { before.set index (ledger.add numbered) with backend }
  /-- the message stays in the log all the same -/
  | lost {ledger : Channel.Ledger} {numbered : Message} (fault : Archive.Fault) :
      before.ledgers[index]? = some ledger → ledger.closed = false →
        ledger.Numbers message numbered → message.kind = .text →
        Appended index message before (.error (.archive fault))
          (before.set index (ledger.add numbered))

/-- How loading a channel ends, and what it makes of the chronicle. -/
inductive Loaded (name : String) (before : Chronicle) :
    Except Archive.Fault Nat → Chronicle → Prop where
  | failed (fault : Archive.Fault) : Loaded name before (.error fault) before
  | loaded {history : List Message} :
      before.backend.load name = .ok history →
        Loaded name before (.ok before.ledgers.length)
          (before.push (.ofHistory name before.limit history))

end Chronicle

namespace Service

open Operation

def chronicle (service : Service) : Chronicle where
  limit := service.channelSettings.historyLimit
  backend := service.archive.backend
  ledgers := service.channels.toList.map Channel.ledger
  entries := service.directory.entries

theorem getElem?_ledgers (service : Service) (index : Nat) :
    service.chronicle.ledgers[index]? = service.channels[index]?.map Channel.ledger := by
  simp [chronicle]

theorem ledger_channel_eq (service : Service) (index : Nat) :
    (service.channel index).ledger =
      service.chronicle.ledgers[index]?.getD Channel.shut.ledger := by
  rw [getElem?_ledgers, Service.channel, Array.getD_eq_getD_getElem?]
  cases service.channels[index]? <;> rfl

theorem ledger_channel {service : Service} {index : Nat} {ledger : Channel.Ledger}
    (found : service.chronicle.ledgers[index]? = some ledger) :
    (service.channel index).ledger = ledger := by
  rw [ledger_channel_eq, found, Option.getD_some]

/-- An instance that is not closed was loaded. -/
theorem getElem?_of_open {service : Service} {index : Nat}
    (isOpen : service.isClosed index = false) :
    service.chronicle.ledgers[index]? = some (service.channel index).ledger := by
  rw [getElem?_ledgers]
  rw [isClosed, Service.channel, Array.getD_eq_getD_getElem?] at isOpen
  rw [Service.channel, Array.getD_eq_getD_getElem?]
  cases present : service.channels[index]? with
  | some channel => rfl
  | none =>
      rw [present] at isOpen
      cases isOpen

theorem chronicle_withChannel {α : Type} (index : Nat) (act : Channel → α × Channel)
    (service : Service) :
    (withChannel index act service).2.chronicle =
      service.chronicle.set index (act (service.channel index)).2.ledger := by
  simp [withChannel, chronicle, Chronicle.set, List.map_set]

/-- A step on a channel that keeps its ledger keeps the chronicle. -/
theorem chronicle_withChannel_of_ledger {α : Type} {index : Nat} {act : Channel → α × Channel}
    {service : Service}
    (same : (act (service.channel index)).2.ledger = (service.channel index).ledger) :
    (withChannel index act service).2.chronicle = service.chronicle := by
  rw [chronicle_withChannel, same, Chronicle.set]
  have unchanged : service.chronicle.ledgers.set index (service.channel index).ledger =
      service.chronicle.ledgers := by
    refine List.ext_getElem? fun other => ?_
    rw [List.getElem?_set]
    split
    case isFalse => rfl
    case isTrue here =>
      subst here
      split
      case isFalse beyond => rw [List.getElem?_eq_none (Nat.not_lt.mp beyond)]
      case isTrue within =>
        rw [List.getElem?_eq_getElem within]
        exact congrArg some (ledger_channel (List.getElem?_eq_getElem within))
  rw [unchanged]

/-! ## Operations that keep the chronicle -/

theorem keeps_onChannel {α : Type} {index : Nat} {act : Channel → α × Channel}
    (same : ∀ channel, (act channel).2.ledger = channel.ledger) :
    Keeps chronicle (onChannel index act) :=
  Keeps.act fun _ => chronicle_withChannel_of_ledger (same _)

/-- A view of a service does not see the faces in the pool. -/
def Faceless {τ : Type} (view : Service → τ) : Prop :=
  ∀ (service : Service) (faces : FacePool), view { service with faces } = view service

section Drawing

variable {τ : Type} {view : Service → τ}

theorem keeps_draw (faceless : Faceless view) (picture : Picture) : Keeps view (draw picture) := by
  refine Keeps.bind (Keeps.act fun service => faceless service _) fun face => ?_
  refine Keeps.bind (Keeps.draw _) fun _ => Keeps.bind (Keeps.ask _) fun inkFails => ?_
  refine Keeps.bind (Keeps.modify fun service => faceless service _) fun _ => ?_
  split <;> exact Keeps.pure _

theorem keeps_render (faceless : Faceless view) (scene : Scene) (viewport : Viewport) :
    Keeps view (render scene viewport) := by
  refine Keeps.bind (Keeps.ask _) fun studio =>
    Keeps.bind (keeps_draw faceless _) fun drawn => ?_
  rcases drawn with ⟨picture, complete⟩
  cases complete <;> exact Keeps.pure _

theorem keeps_renderNotice (faceless : Faceless view) (viewport : Viewport) (text : String) :
    Keeps view (renderNotice viewport text) :=
  Keeps.bind (Keeps.ask _) fun _ => Keeps.bind (keeps_draw faceless _) fun _ => Keeps.pure _

/-- A refresh keeps what its snapshot and its publication keep. -/
theorem keeps_refresh_of
    (faceless : Faceless view)
    {index : Nat}
    (snapshot : ∀ service instant,
      view (withChannel index (·.snapshot instant) service).2 = view service)
    (publish : ∀ service version drawn renderMs,
      view (withChannel index (·.publish version drawn renderMs) service).2 = view service) :
    Keeps view (refresh index) := by
  refine Keeps.bind (Keeps.act fun service => snapshot service service.instant) fun taken => ?_
  refine Keeps.bind Keeps.now fun now => Keeps.bind (Keeps.ask _) fun started => ?_
  refine Keeps.bind (keeps_render faceless _ _) fun narrow => ?_
  refine Keeps.bind (keeps_render faceless _ _) fun wide => ?_
  exact Keeps.bind (Keeps.ask _) fun ended => Keeps.act fun service => publish service _ _ _

end Drawing

theorem faceless_chronicle : Faceless chronicle := fun _ _ => rfl

theorem keeps_randomBytes (count : Nat) : Keeps chronicle (randomBytes count) :=
  Keeps.act fun _ => rfl

theorem keeps_refresh (index : Nat) : Keeps chronicle (refresh index) := by
  apply keeps_refresh_of faceless_chronicle
  · intro service instant
    exact chronicle_withChannel_of_ledger (Channel.ledger_snapshot _ instant)
  · intro service version drawn renderMs
    exact chronicle_withChannel_of_ledger (Channel.ledger_publish _ version drawn renderMs)

/-! ## Operations that write to the chronicle -/

/-- What a question to an archive is answered with, unless it fails before. -/
theorem backend_ask {α : Type} (archive : Archive)
    (question : Archive.Backend → Except Archive.Fault α) :
    (archive.ask question).2.backend = archive.backend ∧
      ((archive.ask question).1 = .error .injected ∨
        (archive.ask question).1 = question archive.backend) := by
  rw [Archive.ask]
  refine ⟨rfl, ?_⟩
  dsimp only
  split
  · exact Or.inl rfl
  · exact Or.inr rfl

/-- The archive keeps a message, or fails and stays as it is. -/
theorem withArchive_append (service : Service) (channel : String) (message : Message)
    (active : Seconds) (keep : Nat) :
    (∃ backend, service.chronicle.backend.append channel message active keep = .ok backend ∧
      (withArchive (·.append channel message active keep) service).1 = .ok () ∧
      (withArchive (·.append channel message active keep) service).2.chronicle =
        { service.chronicle with backend }) ∨
    ∃ fault, (withArchive (·.append channel message active keep) service).1 = .error fault ∧
      (withArchive (·.append channel message active keep) service).2.chronicle =
        service.chronicle := by
  rcases backend_ask service.archive (·.append channel message active keep) with ⟨same, answered⟩
  simp only [withArchive, Archive.append]
  split
  case h_1 backend archive asked =>
    rw [asked] at answered
    rcases answered with failed | answered
    · cases failed
    · exact Or.inl ⟨backend, answered.symm, rfl, rfl⟩
  case h_2 fault archive asked =>
    rw [asked] at same
    exact Or.inr ⟨fault, rfl, by simpa [chronicle] using same⟩

/-- A numbered message that is written goes to the archive, and to nothing else. -/
theorem ends_onArchive_append {name : String} {numbered : Message} {now : Seconds} {limit : Nat}
    {middle after : Service} {reply : Except AppendFault Message}
    (ends : Ends
      (do
        match ← onArchive (·.append name numbered now limit) with
        | .ok () => return .ok numbered
        | .error fault => return .error (.archive fault))
      middle (.ok reply) after) :
    (∃ backend, middle.chronicle.backend.append name numbered now limit = .ok backend ∧
      reply = .ok numbered ∧ after.chronicle = { middle.chronicle with backend }) ∨
    ∃ fault, reply = .error (.archive fault) ∧ after.chronicle = middle.chronicle := by
  replace ends := ends_act_bind.mp ends
  rcases withArchive_append middle name numbered now limit with
    ⟨backend, kept, answer, next⟩ | ⟨fault, answer, next⟩
  · rw [answer] at ends
    rcases ends_pure.mp ends with ⟨rfl, rfl⟩
    exact Or.inl ⟨backend, kept, rfl, next⟩
  · rw [answer] at ends
    rcases ends_pure.mp ends with ⟨rfl, rfl⟩
    exact Or.inr ⟨fault, rfl, next⟩

/-- An append to an instance is one of those that a chronicle knows. -/
theorem ends_append {index : Nat} {message : Message} {before after : Service}
    {reply : Except AppendFault Message}
    (ends : Ends (append index message) before (.ok reply) after) :
    Chronicle.Appended index message before.chronicle reply after.chronicle := by
  rcases ends_now_bind.mp ends with ⟨now, ends⟩
  replace ends := ends_act_bind.mp ends
  have stepped := chronicle_withChannel index (·.record now message) before
  have answer : (withChannel index (·.record now message) before).1 =
      ((before.channel index).record now message).1 := rfl
  by_cases closed : (before.channel index).closed = true
  · rw [Channel.record_of_closed closed] at answer
    rw [answer] at ends
    rcases ends_pure.mp ends with ⟨rfl, rfl⟩
    rw [chronicle_withChannel_of_ledger (by rw [Channel.record_of_closed closed])]
    refine .refused fun ledger found => ?_
    rw [← ledger_channel found]
    exact closed
  · have isOpen : before.isClosed index = false := by simpa [isClosed] using closed
    have found := getElem?_of_open isOpen
    rcases Channel.record_of_open isOpen now message with ⟨numbered, recorded, rfl, numbers, added⟩
    rw [recorded] at answer
    rw [added] at stepped
    rw [answer] at ends
    generalize (withChannel index (·.record numbered.time message) before).2 = middle
      at stepped ends
    have sameKind : numbered.kind = message.kind := by rw [numbers.same]
    dsimp only at ends
    split at ends
    case isTrue text =>
      replace ends := ends_ask_bind.mp ends
      have present : middle.chronicle.ledgers[index]? =
          some ((before.channel index).ledger.add numbered) := by
        rw [stepped, Chronicle.set, List.getElem?_set_self (List.getElem?_eq_some_iff.mp found).1]
      have sameName := congrArg Channel.Ledger.name (ledger_channel present)
      have sameLimit := congrArg Channel.Ledger.limit (ledger_channel present)
      rcases ends_onArchive_append ends with ⟨backend, kept, rfl, next⟩ | ⟨fault, rfl, next⟩
      · rw [next, stepped]
        refine .kept found isOpen numbers (sameKind ▸ text) ?_
        rw [stepped] at kept
        exact sameName ▸ sameLimit ▸ kept
      · rw [next, stepped]
        exact .lost fault found isOpen numbers (sameKind ▸ text)
    case isFalse presence =>
      rcases ends_pure.mp ends with ⟨rfl, rfl⟩
      rw [stepped]
      exact .noted found isOpen numbers fun text => presence (sameKind ▸ text)

/-- What loading still does when the history of a channel and its last activity are known. -/
def addInstance (name : String) (history : List Message) (active : Seconds) :
    Op (Except Archive.Fault Nat) := do
  let narrow ← renderNotice .narrow Channel.displacedNotice
  let wide ← renderNotice .wide Channel.displacedNotice
  let random ← randomBytes 8
  let counter := UInt64.ofNat (Bytes.ofLittleEndian random)
  let channel ← Operation.act fun service =>
    let channel := Channel.ofHistory name service.channelSettings history active counter
      ⟨narrow, wide⟩ service.instant
    (service.channels.size, { service with channels := service.channels.push channel })
  discard (refresh channel)
  return .ok channel

theorem ends_addInstance {name : String} {history : List Message} {active : Seconds}
    {before after : Service} {reply : Except Archive.Fault Nat}
    (ends : Ends (addInstance name history active) before (.ok reply) after) :
    reply = .ok before.chronicle.ledgers.length ∧
      after.chronicle = before.chronicle.push (.ofHistory name before.chronicle.limit history) := by
  rcases ends.after (keeps_renderNotice faceless_chronicle _ _) with ⟨narrow, first, firstSame, ends⟩
  rcases ends.after (keeps_renderNotice faceless_chronicle _ _) with ⟨wide, second, secondSame, ends⟩
  rcases ends.after (keeps_randomBytes _) with ⟨random, third, thirdSame, ends⟩
  replace ends := ends_act_bind.mp ends
  rcases ends_bind.mp ends with ⟨_, drawn, refreshed, ends⟩
  rcases ends_discard.mp refreshed with ⟨published, refreshed⟩
  rcases ends_pure.mp ends with ⟨same, rfl⟩
  have unchanged : third.chronicle = before.chronicle :=
    thirdSame.trans (secondSame.trans firstSame)
  rw [same, refreshed.keeps (keeps_refresh _), ← unchanged]
  simp [chronicle, Chronicle.push]

/-- Loading a channel fails, or adds an instance with the history that the archive gave out. -/
theorem ends_load {name : String} {before after : Service} {reply : Except Archive.Fault Nat}
    (ends : Ends (load name) before (.ok reply) after) :
    Chronicle.Loaded name before.chronicle reply after.chronicle := by
  replace ends := ends_act_bind.mp ends
  rcases backend_ask before.archive (·.load name) with ⟨-, answered⟩
  have given : (withArchive (·.load name) before).1 =
      (before.archive.ask (·.load name)).1 := rfl
  have same : (withArchive (·.load name) before).2.chronicle = before.chronicle := rfl
  generalize (withArchive (·.load name) before).2 = middle at ends same
  rw [given] at ends
  cases asked : (before.archive.ask (·.load name)).1 with
  | error fault =>
      rw [asked] at ends
      rcases ends_pure.mp ends with ⟨rfl, rfl⟩
      rw [same]
      exact .failed fault
  | ok history =>
      rw [asked] at ends answered
      have kept : before.chronicle.backend.load name = .ok history :=
        answered.elim (fun failed => nomatch failed) Eq.symm
      replace ends := ends_act_bind.mp ends
      have unchanged : (withArchive (·.lastActive name) middle).2.chronicle = before.chronicle :=
        same
      generalize (withArchive (·.lastActive name) middle).2 = last at ends unchanged
      cases active : (withArchive (·.lastActive name) middle).1 with
      | error fault =>
          rw [active] at ends
          rcases ends_pure.mp ends with ⟨rfl, rfl⟩
          rw [unchanged]
          exact .failed fault
      | ok stored =>
          rw [active] at ends
          obtain ⟨time, ends⟩ : ∃ time, Ends (addInstance name history time) last (.ok reply) after := by
            cases stored with
            | some time => exact ⟨time, ends⟩
            | none => exact ends_now_bind.mp ends
          rcases ends_addInstance ends with ⟨rfl, grown⟩
          rw [grown, unchanged]
          exact .loaded kept

/-- A service without a font, with an empty archive in memory. -/
def bare : Service :=
  Service.start ⟨none, ⟨0, ∅⟩, none, .webp, ⟨fun _ _ => none⟩⟩ .standard .standard 1700000000 ⟨0⟩
    .inMemory

/-- A service with one channel. -/
def hosting (channel : Channel) : Service :=
  { bare with channels := #[channel] }

end Service

end FrameChat
