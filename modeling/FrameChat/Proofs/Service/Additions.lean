import FrameChat.Proofs.Archive.Contents
import FrameChat.Proofs.Service.Footprints

/-!
# Adding messages to an instance

An instance of a channel is loaded once, and messages are then added to it one
after the other.  Meanwhile the clock may show anything, the archive may fail
or be replaced, and all else may happen that leaves the log, its limit and the
last number of the instance alone.

As long as the instance is open, every message is numbered and added, whether the
archive keeps it or not; once it is closed, every message is refused.  The log then
continues the history that was loaded by all messages that were numbered, and each
number is above every number given out before and above every number in the log.
-/

namespace FrameChat.Service

open Operation

/-- What leaves the log of an instance alone; the instance may still be closed by it. -/
structure Spares (index : Nat) (before after : Service) : Prop where
  log : (after.channel index).log = (before.channel index).log
  lastId : (after.channel index).lastId = (before.channel index).lastId
  limit : (after.channel index).settings.historyLimit =
    (before.channel index).settings.historyLimit

/-- A message that was to be added to an instance, and what came of it. -/
structure Addition where
  message : Message
  /-- whether the instance was closed when the message was to be added -/
  closed : Bool
  reply : Except AppendFault Message

/-- Messages that were to be added to an instance, one after the other. -/
inductive Additions (index : Nat) (loaded : Service) : List Addition → Service → Prop where
  | none : Additions index loaded [] loaded
  | meanwhile {attempts : List Addition} {before after : Service} :
      Additions index loaded attempts before → Spares index before after →
        Additions index loaded attempts after
  | append {attempts : List Addition} {before after : Service} {message : Message}
      {reply : Except AppendFault Message} :
      Additions index loaded attempts before →
        (before.channel index).lastId.toNat < UInt64.size - 1 →
        Ends (append index message) before (.ok reply) after →
        Additions index loaded (attempts ++ [⟨message, before.isClosed index, reply⟩]) after

/--
The messages that were numbered: all that were to be added while the instance was open,
whether the archive kept them or not, and none that were to be added when it was closed.
-/
inductive Numbered : List Addition → List Message → Prop where
  | none : Numbered [] []
  | kept {attempts : List Addition} {added : List Message} {message numbered : Message} :
      Numbered attempts added →
        numbered = { message with id := numbered.id, time := numbered.time } →
        Numbered (attempts ++ [⟨message, false, .ok numbered⟩]) (added ++ [numbered])
  | lost {attempts : List Addition} {added : List Message} {message numbered : Message}
      (fault : Archive.Fault) :
      Numbered attempts added →
        numbered = { message with id := numbered.id, time := numbered.time } →
        message.kind = .text →
        Numbered (attempts ++ [⟨message, false, .error (.archive fault)⟩]) (added ++ [numbered])
  | refused {attempts : List Addition} {added : List Message} {message : Message} :
      Numbered attempts added →
        Numbered (attempts ++ [⟨message, true, .error .closed⟩]) added

theorem Spares.continues {index : Nat} {before after : Service} (spares : Spares index before after)
    {history added : List Message}
    (continues : (before.channel index).ledger.Continues history added) :
    (after.channel index).ledger.Continues history added := by
  have sameLog : (after.channel index).ledger.log = (before.channel index).ledger.log := spares.log
  have sameLimit : (after.channel index).ledger.limit = (before.channel index).ledger.limit :=
    spares.limit
  have sameLast : (after.channel index).ledger.lastId = (before.channel index).ledger.lastId :=
    spares.lastId
  constructor
  · rw [sameLog, sameLimit]
    exact continues.log
  · rw [sameLimit]
    exact continues.increasing
  · rw [sameLimit, sameLast]
    exact continues.bounded

/-- An append is refused exactly if the instance is closed. -/
theorem isClosed_iff_of_append {index : Nat} {message : Message} {before : Service}
    {reply : Except AppendFault Message} {next : Chronicle}
    (appended : Chronicle.Appended index message before.chronicle reply next) :
    before.isClosed index = true ↔ reply = .error .closed := by
  have isOpen {ledger : Channel.Ledger} (found : before.chronicle.ledgers[index]? = some ledger)
      (unclosed : ledger.closed = false) : ¬ before.isClosed index = true := by
    intro closed
    rw [← ledger_channel found] at unclosed
    exact Bool.false_ne_true (unclosed.symm.trans closed)
  cases appended with
  | refused closed =>
      refine iff_of_true ?_ rfl
      by_contra unclosed
      exact unclosed (closed _ (getElem?_of_open (Bool.eq_false_iff.mpr unclosed)))
  | noted found unclosed => exact iff_of_false (isOpen found unclosed) nofun
  | kept found unclosed => exact iff_of_false (isOpen found unclosed) nofun
  | lost fault found unclosed => exact iff_of_false (isOpen found unclosed) nofun

/-- What an append makes of a log that continues a history. -/
theorem continues_append {index : Nat} {message : Message} {before after : Service}
    {reply : Except AppendFault Message} {history added : List Message}
    {attempts : List Addition}
    (ends : Ends (append index message) before (.ok reply) after)
    (left : (before.channel index).lastId.toNat < UInt64.size - 1)
    (numbered : Numbered attempts added)
    (continues : (before.channel index).ledger.Continues history added) :
    ∃ added, Numbered (attempts ++ [⟨message, before.isClosed index, reply⟩]) added ∧
      (after.channel index).ledger.Continues history added ∧
      (after.channel index).ledger.limit = (before.channel index).ledger.limit := by
  have appended := ends_append ends
  have refused := isClosed_iff_of_append appended
  generalize became : after.chronicle = next at appended
  have written {ledger : Channel.Ledger} {new : Message}
      (found : before.chronicle.ledgers[index]? = some ledger)
      (ledgers : after.chronicle.ledgers = before.chronicle.ledgers.set index (ledger.add new))
      (numbers : ledger.Numbers message new) :
      (after.channel index).ledger.Continues history (added ++ [new]) ∧
        (after.channel index).ledger.limit = (before.channel index).ledger.limit := by
    have within := (List.getElem?_eq_some_iff.mp found).1
    have here : (after.channel index).ledger = ledger.add new :=
      ledger_channel (by rw [ledgers, List.getElem?_set_self within])
    obtain rfl := ledger_channel found
    rw [here]
    exact ⟨continues.add (numbers.above left), rfl⟩
  have isOpen (accepted : reply ≠ .error .closed) : before.isClosed index = false :=
    Bool.eq_false_iff.mpr (refused.not.mpr accepted)
  cases appended with
  | refused closed =>
      have same : (after.channel index).ledger = (before.channel index).ledger := by
        rw [ledger_channel_eq, ledger_channel_eq, became]
      rw [same, refused.mpr rfl]
      exact ⟨added, numbered.refused, continues, rfl⟩
  | @noted ledger new found _ numbers presence =>
      rcases written found (by rw [became]; rfl) numbers with ⟨continues, limit⟩
      rw [isOpen nofun]
      exact ⟨_, numbered.kept numbers.same, continues, limit⟩
  | @kept ledger new backend found _ numbers text kept =>
      rcases written found (by rw [became]; rfl) numbers with ⟨continues, limit⟩
      rw [isOpen nofun]
      exact ⟨_, numbered.kept numbers.same, continues, limit⟩
  | @lost ledger new fault found _ numbers text =>
      rcases written found (by rw [became]; rfl) numbers with ⟨continues, limit⟩
      rw [isOpen nofun]
      exact ⟨_, numbered.lost fault numbers.same text, continues, limit⟩

/-- The log of an instance continues what it was loaded with, by whatever was numbered since. -/
theorem Additions.continues {index : Nat} {loaded after : Service} {history : List Message}
    {attempts : List Addition}
    (additions : Additions index loaded attempts after)
    (start : (loaded.channel index).ledger.Continues history []) :
    ∃ added, Numbered attempts added ∧ (after.channel index).ledger.Continues history added ∧
      (after.channel index).ledger.limit = (loaded.channel index).ledger.limit := by
  induction additions with
  | none => exact ⟨[], .none, start, rfl⟩
  | meanwhile _ spares ih =>
      rcases ih with ⟨added, numbered, continues, limit⟩
      exact ⟨added, numbered, spares.continues continues, spares.limit.trans limit⟩
  | append _ left ends ih =>
      rcases ih with ⟨_, numbered, continues, limit⟩
      rcases continues_append ends left numbered continues with ⟨added, numbered, continues, same⟩
      exact ⟨added, numbered, continues, same.trans limit⟩

/-- If the clock can be read, an append comes to a reply; it is refused by closed instances only. -/
theorem exists_reply_of_append (index : Nat) (message : Message) (time : Service → Seconds)
    (before : Service) :
    ∃ reply, ((append index message).run (fun service => some (time service)) before).1 =
        .ok reply ∧
      (before.isClosed index = true ↔ reply = .error .closed) := by
  rcases (steady_append index message).run time before with ⟨reply, answered⟩
  exact ⟨reply, answered, isClosed_iff_of_append (ends_append (.of_run answered))⟩

/-- An instance begins with the history that the archive holds of its channel. -/
theorem continues_load {name : String} {index : Nat} {stored loaded : Service}
    (written : stored.archive.backend.Written)
    (ends : Ends (load name) stored (.ok (.ok index)) loaded) :
    ∃ history, stored.archive.backend.load name = .ok history ∧
      (loaded.channel index).ledger.Continues history [] ∧
      (loaded.channel index).ledger.limit = stored.channelSettings.historyLimit := by
  rcases written.holds with ⟨contents, holds, sound⟩
  have given := holds.load (sound.fits name)
  generalize outcome : Except.ok index = reply at ends
  have result := ends_load ends
  generalize became : loaded.chronicle = next at result
  cases result with
  | failed fault => cases outcome
  | @loaded history found =>
      obtain rfl := Except.ok.inj outcome
      obtain rfl : contents name = history := Except.ok.inj (given.symm.trans found)
      have here : (loaded.channel stored.chronicle.ledgers.length).ledger =
          .ofHistory name stored.chronicle.limit (contents name) :=
        ledger_channel (by rw [became]; simp [Chronicle.push])
      refine ⟨_, given, ?_, ?_⟩
      · rw [here]
        exact Channel.Ledger.continues_ofHistory name _ (sound.increasing name)
      · rw [here]
        rfl

/--
However messages are added to a loaded instance, and whether they are kept in
the archive or not: the log is the newest of the history followed by all that
were numbered, and every number is above all that were given out before and
above all in the log.  Every message is numbered that is to be added while the
instance is open.  If the clock can be read, the next message comes to a reply as
well, and it is refused exactly if the instance is closed.
-/
theorem Additions.log_continues {name : String} {index : Nat} {stored loaded after : Service}
    {attempts : List Addition}
    (written : stored.archive.backend.Written)
    (ends : Ends (load name) stored (.ok (.ok index)) loaded)
    (additions : Additions index loaded attempts after) :
    (∃ history added, stored.archive.backend.load name = .ok history ∧ Numbered attempts added ∧
      (after.channel index).log =
        Channel.newest stored.channelSettings.historyLimit (history ++ added) ∧
      Message.Increasing (after.channel index).log ∧
      Message.Increasing
        (Channel.newest stored.channelSettings.historyLimit history ++ added)) ∧
    ∀ (message : Message) (time : Service → Seconds),
      ∃ reply, ((Service.append index message).run (fun service => some (time service)) after).1 =
          .ok reply ∧
        (after.isClosed index = true ↔ reply = .error .closed) := by
  refine ⟨?_, fun message time => exists_reply_of_append index message time after⟩
  rcases continues_load written ends with ⟨history, given, start, limit⟩
  rcases additions.continues start with ⟨added, numbered, continues, same⟩
  rw [← limit, ← same]
  exact ⟨history, added, given, numbered, continues.log, continues.increasing_log,
    continues.increasing⟩

/-- A channel that was just loaded from an empty archive. -/
def loadedLobby : Service := (Service.run (load "lobby") bare).2

/-- Ann says hello in it. -/
def greeted : Service := (Service.run (append 0 (.written "ann" "hello")) loadedLobby).2

/-- The clock steps back by fifty years, and Bob joins. -/
def joinedEarlier : Service :=
  ((append 0 (.presence "bob" .join)).run (fun _ => some 0) greeted).2

/-- The archive is going to fail. -/
def failing : Service :=
  { joinedEarlier with archive := { joinedEarlier.archive with faults := .listed [true] } }

/-- Bob says hello as well, and the archive does not keep it. -/
def unkept : Service := (Service.run (append 0 (.written "bob" "hello")) failing).2

/-- All three messages are in the log, one number above the other. -/
theorem log_continues_when_clock_steps_back :
    let first := { Message.written "ann" "hello" with id := 214748365881504924, time := 1700000000 }
    let second := { Message.presence "bob" .join with id := 214748365881504925, time := 0 }
    let third := { Message.written "bob" "hello" with id := 214748365881504926, time := 1700000000 }
    let attempts : List Addition :=
      [⟨.written "ann" "hello", false, .ok first⟩, ⟨.presence "bob" .join, false, .ok second⟩,
        ⟨.written "bob" "hello", false, .error (.archive .injected)⟩]
    Ends (load "lobby") bare (.ok (.ok 0)) loadedLobby ∧
      Additions 0 loadedLobby attempts unkept ∧
      (unkept.channel 0).log = [first, second, third] ∧
      (∃ history added, bare.archive.backend.load "lobby" = .ok history ∧
        Numbered attempts added ∧
        (unkept.channel 0).log =
          Channel.newest bare.channelSettings.historyLimit (history ++ added) ∧
        Message.Increasing (unkept.channel 0).log ∧
        Message.Increasing
          (Channel.newest bare.channelSettings.historyLimit history ++ added)) ∧
      ∃ reply, (Service.run (append 0 (.written "ann" "bye")) unkept).1 = .ok reply ∧
        reply ≠ .error .closed := by
  intro first second third attempts
  have started : (Service.run (load "lobby") bare).1 = .ok (.ok 0) := rfl
  have said :
      (Service.run (append 0 (.written "ann" "hello")) loadedLobby).1 = .ok (.ok first) := by
    decide +kernel
  have joined : ((append 0 (.presence "bob" .join)).run (fun _ => some 0) greeted).1 =
      .ok (.ok second) := by
    decide +kernel
  have answered : (Service.run (append 0 (.written "bob" "hello")) failing).1 =
      .ok (.error (.archive .injected)) := by
    decide +kernel
  have untilJoined := (Additions.none.append (by decide +kernel) (.of_run said)).append
    (by decide +kernel) (.of_run joined)
  have spares : Spares 0 joinedEarlier failing := ⟨rfl, rfl, rfl⟩
  have additions : Additions 0 loadedLobby attempts unkept :=
    (untilJoined.meanwhile spares).append (by decide +kernel) (.of_run answered)
  have isOpen : ¬ unkept.isClosed 0 = true := by decide +kernel
  rcases additions.log_continues (.blank .memory) (.of_run started) with ⟨continued, next⟩
  rcases next (.written "ann" "bye") Service.clock with ⟨reply, replied, refused⟩
  exact ⟨.of_run started, additions, by decide +kernel, continued, reply, replied,
    refused.not.mp isOpen⟩

end FrameChat.Service
