import FrameChat.Proofs.Transit.Instances

/-!
# Requests as moves on a channel

An append is the two moves of its message, one after the other, and it succeeds exactly
if the message is accepted (`ends_append_moves`).  Opening a channel is to find it, or to
read its history and to put an instance that is made of it into the directory
(`ends_openChannel_moves`); what else it does is not seen in the chronicle.  A sweep is
one move.  What is said of any moves is so said of requests whose steps are interleaved
in any way.
-/

namespace FrameChat

open Operation

/-- A message that was recorded has the time at which it was, and says what it said. -/
theorem Channel.of_record {channel : Channel} {now : Seconds} {message numbered : Message}
    (recorded : (channel.record now message).1 = some numbered) :
    numbered.time = now ∧ numbered.kind = message.kind := by
  cases closed : channel.closed with
  | true =>
      rw [record_of_closed closed] at recorded
      cases recorded
  | false =>
      rcases record_of_open closed now message with ⟨other, same, timed, numbers, -⟩
      obtain rfl : other = numbered := Option.some.inj (same.symm.trans recorded)
      exact ⟨timed, by rw [numbers.same]⟩

namespace Transit

variable {name : String} {transit : Transit name}

/-! ## Appending -/

section

variable {index : Nat} {now : Seconds} {message numbered : Message} {middle after : Service}

theorem step_write_of_none {pick : Nat} (absent : transit.unwritten[pick]? = none) :
    transit.step (.write pick) = transit := by
  rw [step, absent]

theorem step_log_of_refused
    (recorded : Service.withChannel index (·.record now message) transit.service =
      (none, middle)) :
    transit.step (.log index now message) = { transit with service := middle } := by
  rw [step, recorded]

theorem step_log_of_recorded
    (recorded : Service.withChannel index (·.record now message) transit.service =
      (some numbered, middle)) :
    transit.step (.log index now message) =
      { transit with
        service := middle
        unwritten := if numbered.kind = .text then
            transit.unwritten ++ [(middle.channel index).deposit numbered]
          else transit.unwritten } := by
  rw [step, recorded]
  dsimp only
  split <;> rfl

/-- What was logged last is written. -/
theorem step_write_snoc {earlier : List Archive.Deposit} {deposit : Archive.Deposit}
    {reply : Except Archive.Fault Unit} (pending : transit.unwritten = earlier ++ [deposit])
    (written : Service.withArchive
      (·.append deposit.channel deposit.message deposit.active deposit.keep) transit.service =
        (reply, after)) :
    transit.step (.write earlier.length) =
      { transit with
        service := after
        unwritten := earlier
        accepted := if reply = .ok () then transit.accepted ++ [deposit.message]
          else transit.accepted } := by
  have found : transit.unwritten[earlier.length]? = some deposit := by simp [pending]
  have rest : transit.unwritten.eraseIdx earlier.length = earlier := by
    rw [pending, List.eraseIdx_append_of_length_le (Nat.le_refl _)]
    simp
  rw [step, found]
  dsimp only
  rw [written, rest]
  cases reply with
  | ok answer => rfl
  | error fault => rfl

end

/--
An append is to log its message and to write it.  It succeeds exactly if the message is
accepted; a notice of presence is not written.
-/
theorem ends_append_moves
    {index : Nat}
    {message : Message}
    {reply : Except Service.AppendFault Message}
    {after : Service}
    (ends : Ends (Service.append index message) transit.service (.ok reply) after) :
    ∃ now final, transit.run [.log index now message, .write transit.unwritten.length] = final ∧
      final.service = after ∧ final.unwritten = transit.unwritten ∧
      final.histories = transit.histories ∧
      (message.kind = .text →
        ∀ numbered, reply = .ok numbered ↔ final.accepted = transit.accepted ++ [numbered]) := by
  rcases ends_now_bind.mp ends with ⟨now, ends⟩
  replace ends := ends_act_bind.mp ends
  refine ⟨now, (transit.step (.log index now message)).step (.write transit.unwritten.length), rfl,
    ?_⟩
  have nothing : transit.unwritten[transit.unwritten.length]? = none := by simp
  cases recorded : Service.withChannel index (·.record now message) transit.service with
  | mk answer middle =>
      rw [recorded] at ends
      cases answer with
      | none =>
          rcases ends_pure.mp ends with ⟨rfl, rfl⟩
          have logged := step_log_of_refused recorded
          rw [step_write_of_none (by rw [logged]; exact nothing), logged]
          exact ⟨rfl, rfl, rfl, fun _ numbered => by simp⟩
      | some numbered =>
          have logged := step_log_of_recorded recorded
          rcases Channel.of_record (congrArg Prod.fst recorded) with ⟨timed, kind⟩
          dsimp only at ends
          split at ends
          case isTrue text =>
            replace ends := ends_act_bind.mp (ends_ask_bind.mp ends)
            rw [if_pos text] at logged
            cases written : Service.withArchive (·.append (middle.channel index).name numbered now
                (middle.channel index).settings.historyLimit) middle with
            | mk result final =>
                rw [written] at ends
                have asked : Service.withArchive (·.append (middle.channel index).name numbered
                    numbered.time (middle.channel index).settings.historyLimit)
                    (transit.step (.log index now message)).service = (result, final) := by
                  rw [logged, timed]
                  exact written
                rw [step_write_snoc (congrArg Transit.unwritten logged) asked, logged]
                cases result with
                | ok _ =>
                    rcases ends_pure.mp ends with ⟨rfl, rfl⟩
                    exact ⟨rfl, rfl, rfl, fun _ other => by simp [Channel.deposit]⟩
                | error fault =>
                    rcases ends_pure.mp ends with ⟨rfl, rfl⟩
                    exact ⟨rfl, rfl, rfl, fun _ other => by simp⟩
          case isFalse presence =>
            rw [if_neg presence] at logged
            rcases ends_pure.mp ends with ⟨rfl, rfl⟩
            rw [step_write_of_none (by rw [logged]; exact nothing), logged]
            exact ⟨rfl, rfl, rfl, fun text => absurd (kind.trans text) presence⟩

/-! ## Opening and sweeping -/

/-- A channel that is loaded has a history that the archive has given out. -/
theorem exists_history_of_load {before after : Service} {index : Nat}
    (ends : Ends (Service.load name) before (.ok (.ok index)) after) :
    ∃ history, (Service.withArchive (·.load name) before).1 = .ok history ∧
      index = before.chronicle.ledgers.length ∧
      after.chronicle =
        before.chronicle.push (.ofHistory name before.chronicle.limit history) := by
  have loaded := Service.ends_load ends
  replace ends := ends_act_bind.mp ends
  cases asked : (Service.withArchive (·.load name) before).1 with
  | error fault =>
      rw [asked] at ends
      cases (ends_pure.mp ends).1
  | ok history =>
      refine ⟨history, rfl, ?_⟩
      generalize after.chronicle = next at loaded
      cases loaded with
      | loaded given =>
          refine ⟨rfl, ?_⟩
          have answered := (Service.backend_ask before.archive (·.load name)).2
          rw [show (before.archive.ask (·.load name)).1 = .ok history from asked] at answered
          rcases answered with failed | same
          · cases failed
          · rw [Except.ok.inj (same.trans given)]

/-- To read a history and to put an instance into the directory that is made of it. -/
theorem chronicle_read_insert {history : List Message}
    (asked : (Service.withArchive (·.load name) transit.service).1 = .ok history)
    (active : Seconds) (counter : UInt64) (notices : PerViewport Frame) :
    (transit.run [.read, .insert transit.histories.length active counter notices]).chronicle =
      transit.chronicle.settle name (.ofHistory name transit.chronicle.limit history) := by
  have read : transit.step .read =
      { transit with
        service := (Service.withArchive (·.load name) transit.service).2
        histories := transit.histories ++ [history] } := by
    rw [step]
    split
    case h_1 other service same =>
      rw [same] at asked ⊢
      cases asked
      rfl
    case h_2 fault service same =>
      rw [same] at asked
      cases asked
  have found : (transit.step .read).histories[transit.histories.length]? = some history := by
    simp [read]
  show ((transit.step .read).step (.insert _ active counter notices)).chronicle = _
  rw [chronicle_step_insert found, read]
  rfl

/--
To open a channel is to find it or to fail, or else to read its history and to put an
instance into the directory that is made of it.
-/
theorem ends_openChannel_moves
    {reply : Except Service.OpenFault Nat}
    {after : Service}
    (ends : Ends (Service.openChannel name) transit.service (.ok reply) after)
    (active : Seconds)
    (counter : UInt64)
    (notices : PerViewport Frame) :
    after.chronicle = transit.chronicle ∨
      (transit.run [.read, .insert transit.histories.length active counter notices]).chronicle =
        after.chronicle := by
  rw [Service.openChannel] at ends
  split at ends
  case isTrue => exact Or.inl (congrArg Service.chronicle (ends_pure.mp ends).2)
  case isFalse =>
    replace ends := ends_ask_bind.mp ends
    cases live : transit.service.find? name with
    | some index =>
        rw [live] at ends
        exact Or.inl (congrArg Service.chronicle (ends_pure.mp ends).2)
    | none =>
        rw [live] at ends
        rcases ends_bind.mp ends with ⟨answer, middle, loading, ends⟩
        cases answer with
        | error fault =>
            have failed := Service.ends_load loading
            rcases ends_pure.mp ends with ⟨-, rfl⟩
            generalize after.chronicle = next at failed
            cases failed with
            | failed => exact Or.inl rfl
        | ok loaded =>
            rcases exists_history_of_load loading with ⟨history, asked, rfl, grown⟩
            rcases ends_bind.mp ends with ⟨existing, stood, inserting, ends⟩
            rcases Service.ends_insertLoaded inserting with ⟨standing, inserted⟩
            rw [grown] at standing inserted
            right
            rw [chronicle_read_insert asked, Chronicle.settle, show transit.chronicle =
              transit.service.chronicle from rfl, ← standing]
            cases existing with
            | some other =>
                rcases ends_bind.mp ends with ⟨_, closed, closing, ends⟩
                rcases ends_pure.mp ends with ⟨-, rfl⟩
                exact (Service.ends_close_pushed inserted closing).symm
            | none =>
                rcases ends_bind.mp ends with ⟨_, timed, timing, ends⟩
                rcases ends_pure.mp ends with ⟨-, rfl⟩
                rw [timing.keeps (Service.keeps_startRefreshTimer _), inserted]
                rfl

theorem ends_purge_moves {count : Nat} {after : Service}
    (ends : Ends Service.purge transit.service (.ok count) after) :
    (transit.step .purge).service = after :=
  (ends_act.mp ends).2.symm

end Transit

end FrameChat
