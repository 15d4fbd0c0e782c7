import FrameChat.Proofs.Archive.LateWrites
import FrameChat.Proofs.Service.Account

/-!
# Appends and openings under way

An append adds its message to the log of an instance, and writes it to the archive in
a later step.  Whoever opens a channel reads its history from the archive, and puts an
instance that is made of it into the directory in a later step, unless another one is
live there by then.  Between the two steps anything may happen, a sweep as well.

A `Transit` is a service with what is under way in it for the channel of one name, and
a `Move` one step of a request.  Any list of moves is an interleaving of any number of
requests; a move that is not possible changes nothing.

* `makes_step`: all that a move can do to the chronicle and to what is under way.
-/

namespace FrameChat

/-- A service, and what is under way in it for the channel of a name. -/
structure Transit (name : String) where
  service : Service
  /-- messages that are in a log, and that are still to be written -/
  unwritten : List Archive.Deposit
  /-- what was read of the archive by those who are opening the channel -/
  histories : List (List Message)
  /-- messages that were written, so that their appends have succeeded -/
  accepted : List Message

/-- Put an instance into the directory, or close it if another one is live under its name. -/
def Chronicle.settle (name : String) (ledger : Channel.Ledger) (chronicle : Chronicle) :
    Chronicle :=
  if ((chronicle.push ledger).find? name).isSome then chronicle.push (ledger.closeIf true)
  else
    { chronicle.push ledger with
      entries := (name, chronicle.ledgers.length) ::
        chronicle.entries.filter fun entry => entry.1 ≠ name }

namespace Service

/-- Take an instance in that nobody knows yet. -/
def takeIn (channel : Channel) (service : Service) : Service :=
  { service with channels := service.channels.push channel }

/-- Put an instance into the directory, or close it if another one is live there. -/
def settle (name : String) (index : Nat) (service : Service) : Service :=
  match service.directory.insert service.isClosed name index with
  | (some _, _) => (withChannel index (fun channel => ((), channel.close)) service).2
  | (none, directory) => { service with directory }

theorem chronicle_takeIn (channel : Channel) (service : Service) :
    (service.takeIn channel).chronicle = service.chronicle.push channel.ledger := by
  simp [takeIn, chronicle, Chronicle.push]

/-- An instance that was taken in is put into the directory, or closed. -/
theorem chronicle_settle (service : Service) (name : String) (channel : Channel) :
    ((service.takeIn channel).settle name service.channels.size).chronicle =
      service.chronicle.settle name channel.ledger := by
  have pushed := chronicle_takeIn channel service
  have size : service.channels.size = service.chronicle.ledgers.length := by simp [chronicle]
  rw [settle, Chronicle.settle, ← pushed]
  cases live : (service.takeIn channel).chronicle.find? name with
  | some existing =>
      have here : ((service.takeIn channel).channel service.chronicle.ledgers.length).ledger =
          channel.ledger :=
        ledger_channel (by rw [pushed]; simp [Chronicle.push])
      rw [insert_of_live live]
      dsimp only
      rw [chronicle_withChannel, Channel.ledger_close, size, here, pushed, Chronicle.set_push]
      rfl
  | none =>
      rw [insert_of_none live, size]
      rfl

end Service

namespace Transit

variable {name : String}

/-- One step of a request. -/
inductive Move where
  /-- give a message its number and add it to the log of an instance -/
  | log (index : Nat) (now : Seconds) (message : Message)
  /-- write a message to the archive -/
  | write (pick : Nat)
  /-- read the history of the channel -/
  | read
  /-- put an instance that is made of a history into the directory -/
  | insert (pick : Nat) (active : Seconds) (counter : UInt64) (notices : PerViewport Frame)
  /-- close and drop what nobody watches -/
  | purge
  /-- anything else that is done on an instance; messages are added by `log` alone -/
  | touch (index : Nat) (touch : Channel.Touch)

def step (transit : Transit name) : Move → Transit name
  | .log index now message =>
      match Service.withChannel index (·.record now message) transit.service with
      | (some numbered, service) =>
          if numbered.kind = .text then
            { transit with
              service
              unwritten := transit.unwritten ++ [(service.channel index).deposit numbered] }
          else { transit with service }
      | (none, service) => { transit with service }
  | .write pick =>
      match transit.unwritten[pick]? with
      | some ⟨channel, message, active, keep⟩ =>
          let rest := transit.unwritten.eraseIdx pick
          match Service.withArchive (·.append channel message active keep) transit.service with
          | (.ok (), service) =>
              { transit with
                service
                unwritten := rest
                accepted := transit.accepted ++ [message] }
          | (.error _, service) => { transit with service, unwritten := rest }
      | none => transit
  | .read =>
      match Service.withArchive (·.load name) transit.service with
      | (.ok history, service) =>
          { transit with service, histories := transit.histories ++ [history] }
      | (.error _, service) => { transit with service }
  | .insert pick active counter notices =>
      match transit.histories[pick]? with
      | some history =>
          let channel := Channel.ofHistory name transit.service.channelSettings history active
            counter notices transit.service.instant
          { transit with
            service := (transit.service.takeIn channel).settle name transit.service.channels.size
            histories := transit.histories.eraseIdx pick }
      | none => transit
  | .purge => { transit with service := (transit.service.run Service.purge).2 }
  | .touch _ (.record ..) => transit
  | .touch index touch =>
      { transit with
        service :=
          (Service.withChannel index (fun channel => ((), channel.touch touch)) transit.service).2 }

def run (transit : Transit name) (moves : List Move) : Transit name :=
  moves.foldl step transit

/-- A service in which nothing is under way. -/
def opening (name : String) (service : Service) : Transit name :=
  ⟨service, [], [], []⟩

def chronicle (transit : Transit name) : Chronicle :=
  transit.service.chronicle

/-! ## What a move does -/

/-- What a move can do to the chronicle and to what is under way. -/
inductive Makes (before : Transit name) : Move → Transit name → Prop where
  /-- at most a write has failed -/
  | still {move : Move} {after : Transit name} :
      after.chronicle = before.chronicle → after.unwritten.Sublist before.unwritten →
        after.accepted = before.accepted → Makes before move after
  | logged {index : Nat} {now : Seconds} {message numbered : Message} {ledger : Channel.Ledger}
      {after : Transit name} :
      before.chronicle.ledgers[index]? = some ledger → ledger.closed = false →
        ledger.Numbers message numbered →
        after.chronicle = before.chronicle.set index (ledger.add numbered) →
        after.unwritten.Sublist
          (before.unwritten ++ [⟨ledger.name, numbered, numbered.time, ledger.limit⟩]) →
        after.accepted = before.accepted → Makes before (.log index now message) after
  | written {pick : Nat} {deposit : Archive.Deposit} {backend : Archive.Backend}
      {after : Transit name} :
      before.unwritten[pick]? = some deposit →
        before.chronicle.backend.append deposit.channel deposit.message deposit.active
          deposit.keep = .ok backend →
        after.chronicle = { before.chronicle with backend } →
        after.unwritten = before.unwritten.eraseIdx pick →
        after.accepted = before.accepted ++ [deposit.message] → Makes before (.write pick) after
  | installed {pick : Nat} {active : Seconds} {counter : UInt64} {notices : PerViewport Frame}
      {history : List Message} {ledger : Channel.Ledger} {after : Transit name} :
      before.histories[pick]? = some history →
        ledger = .ofHistory name before.chronicle.limit history →
        (before.chronicle.push ledger).find? name = none →
        after.chronicle =
          { before.chronicle.push ledger with
            entries := (name, before.chronicle.ledgers.length) ::
              before.chronicle.entries.filter fun entry => entry.1 ≠ name } →
        after.unwritten = before.unwritten → after.accepted = before.accepted →
        Makes before (.insert pick active counter notices) after
  /-- another instance was live, and the one that was loaded is closed -/
  | surplus {pick : Nat} {active : Seconds} {counter : UInt64} {notices : PerViewport Frame}
      {history : List Message} {after : Transit name} :
      after.chronicle =
          before.chronicle.push ((Channel.Ledger.ofHistory name before.chronicle.limit
            history).closeIf true) →
        after.unwritten = before.unwritten → after.accepted = before.accepted →
        Makes before (.insert pick active counter notices) after
  | swept {closing : Nat → Bool} {after : Transit name} :
      before.chronicle.Swept after.chronicle closing → after.unwritten = before.unwritten →
        after.accepted = before.accepted → Makes before .purge after

theorem makes_log_of_closed {transit : Transit name} {index : Nat}
    (closed : (transit.service.channel index).closed = true) (now : Seconds) (message : Message) :
    transit.Makes (.log index now message) (transit.step (.log index now message)) := by
  have recorded := Channel.record_of_closed closed now message
  have answer : (Service.withChannel index (·.record now message) transit.service).1 = none :=
    congrArg Prod.fst recorded
  have same : (Service.withChannel index (·.record now message) transit.service).2.chronicle =
      transit.chronicle :=
    Service.chronicle_withChannel_of_ledger (by rw [recorded])
  rw [step]
  split
  case h_1 numbered service asked => rw [asked] at answer; cases answer
  case h_2 service asked =>
    rw [asked] at same
    exact .still same (List.Sublist.refl _) rfl

theorem makes_log_of_open {transit : Transit name} {index : Nat}
    (isOpen : (transit.service.channel index).closed = false) (now : Seconds) (message : Message) :
    transit.Makes (.log index now message) (transit.step (.log index now message)) := by
  have found := Service.getElem?_of_open isOpen
  rcases Channel.record_of_open isOpen now message with ⟨numbered, recorded, -, numbers, added⟩
  have answer : (Service.withChannel index (·.record now message) transit.service).1 =
      some numbered := recorded
  have stepped := Service.chronicle_withChannel index (·.record now message) transit.service
  rw [added] at stepped
  rw [step]
  split
  case h_1 other service asked =>
    rw [asked] at answer stepped
    obtain rfl : other = numbered := Option.some.inj answer
    have present : service.chronicle.ledgers[index]? =
        some ((transit.service.channel index).ledger.add other) := by
      rw [stepped, Chronicle.set, List.getElem?_set_self (List.getElem?_eq_some_iff.mp found).1]
    have deposit : (service.channel index).deposit other =
        ⟨(transit.service.channel index).ledger.name, other, other.time,
          (transit.service.channel index).ledger.limit⟩ :=
      congrArg
        (fun ledger : Channel.Ledger => Archive.Deposit.mk ledger.name other other.time ledger.limit)
        (Service.ledger_channel present)
    split
    case isTrue => exact .logged found isOpen numbers stepped (by rw [deposit]) rfl
    case isFalse => exact .logged found isOpen numbers stepped (List.sublist_append_left _ _) rfl
  case h_2 service asked => rw [asked] at answer; cases answer

theorem makes_write (transit : Transit name) (pick : Nat) :
    transit.Makes (.write pick) (transit.step (.write pick)) := by
  rw [step]
  split
  case h_1 channel message active keep found =>
    have rest := List.eraseIdx_sublist transit.unwritten pick
    rcases Service.withArchive_append transit.service channel message active keep with
      ⟨backend, kept, answer, next⟩ | ⟨fault, answer, next⟩
    · split
      case h_1 service same =>
        rw [same] at next
        exact .written found kept next rfl rfl
      case h_2 fault service same => rw [same] at answer; cases answer
    · split
      case h_1 service same => rw [same] at answer; cases answer
      case h_2 fault service same =>
        rw [same] at next
        exact .still next rest rfl
  case h_2 => exact .still rfl (List.Sublist.refl _) rfl

theorem makes_read (transit : Transit name) : transit.Makes .read (transit.step .read) := by
  have same : (Service.withArchive (·.load name) transit.service).2.chronicle =
      transit.chronicle := rfl
  rw [step]
  split
  case h_1 history service asked =>
    rw [asked] at same
    exact .still same (List.Sublist.refl _) rfl
  case h_2 fault service asked =>
    rw [asked] at same
    exact .still same (List.Sublist.refl _) rfl

/-- What putting an instance into the directory makes of the chronicle. -/
theorem chronicle_step_insert {transit : Transit name} {pick : Nat} {history : List Message}
    (found : transit.histories[pick]? = some history) (active : Seconds) (counter : UInt64)
    (notices : PerViewport Frame) :
    (transit.step (.insert pick active counter notices)).chronicle =
      transit.chronicle.settle name (.ofHistory name transit.chronicle.limit history) := by
  rw [step, found]
  exact Service.chronicle_settle transit.service name _

theorem makes_insert (transit : Transit name) (pick : Nat) (active : Seconds) (counter : UInt64)
    (notices : PerViewport Frame) :
    transit.Makes (.insert pick active counter notices)
      (transit.step (.insert pick active counter notices)) := by
  cases found : transit.histories[pick]? with
  | none =>
      rw [step, found]
      exact .still rfl (List.Sublist.refl _) rfl
  | some history =>
      have became := chronicle_step_insert found active counter notices
      have unwritten : (transit.step (.insert pick active counter notices)).unwritten =
          transit.unwritten := by rw [step, found]
      have accepted : (transit.step (.insert pick active counter notices)).accepted =
          transit.accepted := by rw [step, found]
      rw [Chronicle.settle] at became
      split at became
      case isTrue => exact .surplus became unwritten accepted
      case isFalse absent =>
        rw [Bool.not_eq_true, Option.isSome_eq_false_iff, Option.isNone_iff_eq_none] at absent
        exact .installed found rfl absent became unwritten accepted

theorem makes_purge (transit : Transit name) : transit.Makes .purge (transit.step .purge) := by
  have answer : (transit.service.run Service.purge).1 = .ok _ := rfl
  rcases Service.ends_purge (Operation.Ends.of_run answer) with ⟨closing, swept⟩
  exact .swept swept rfl rfl

theorem makes_touch (transit : Transit name) (index : Nat) (touch : Channel.Touch) :
    transit.Makes (.touch index touch) (transit.step (.touch index touch)) := by
  have other (same : ∀ channel : Channel, (channel.touch touch).ledger = channel.ledger) :
      transit.Makes (.touch index touch) { transit with
        service := (Service.withChannel index (fun channel => ((), channel.touch touch))
          transit.service).2 } := by
    have unchanged : (Service.withChannel index (fun channel => ((), channel.touch touch))
        transit.service).2.chronicle = transit.chronicle :=
      Service.chronicle_withChannel_of_ledger (same (transit.service.channel index))
    exact .still unchanged (List.Sublist.refl _) rfl
  cases touch with
  | record now message => exact .still rfl (List.Sublist.refl _) rfl
  | enter identity viewport address =>
      exact other fun channel => Channel.ledger_enter channel identity viewport address
  | remove session => exact other fun channel => Channel.ledger_remove channel session
  | closeMailbox session => exact other fun channel => rfl
  | receive session => exact other fun channel => rfl
  | serve session allowance => exact other fun channel => rfl
  | snapshot instant => exact other fun channel => rfl
  | publish version drawn renderMs =>
      exact other fun channel => Channel.ledger_publish channel version drawn renderMs

theorem makes_step (transit : Transit name) (move : Move) :
    transit.Makes move (transit.step move) := by
  cases move with
  | log index now message =>
      cases closed : (transit.service.channel index).closed with
      | true => exact makes_log_of_closed closed now message
      | false => exact makes_log_of_open closed now message
  | write pick => exact transit.makes_write pick
  | read => exact transit.makes_read
  | insert pick active counter notices => exact transit.makes_insert pick active counter notices
  | purge => exact transit.makes_purge
  | touch index touch => exact transit.makes_touch index touch

end Transit

end FrameChat
