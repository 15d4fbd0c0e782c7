import FrameChat.Proofs.Service.Chronicle
import FrameChat.Service.Submission

/-!
# What requests write to the chronicle

Of the requests to a service, each either leaves the chronicle as it is, or
appends one message to one instance, or opens a channel, or closes idle ones.
Joining and leaving append a notice of presence, a submission a written message;
whatever else they do is not seen in the chronicle.

There is one lemma for each request.  For two of them the change has a name of
its own: `Chronicle.Opened` and `Chronicle.Swept`.
-/

namespace FrameChat

namespace Chronicle

/-- Whether an instance is closed; one that was never loaded is. -/
def isClosed (chronicle : Chronicle) (index : Nat) : Bool :=
  (chronicle.ledgers[index]?.map Channel.Ledger.closed).getD true

/-- The live instance under a name. -/
def find? (chronicle : Chronicle) (name : String) : Option Nat :=
  (chronicle.entries.lookup name).filter fun live => !chronicle.isClosed live

theorem set_push (chronicle : Chronicle) (first second : Channel.Ledger) :
    (chronicle.push first).set chronicle.ledgers.length second = chronicle.push second := by
  simp [set, push]

/-- How opening a channel ends, and what it makes of the chronicle. -/
inductive Opened (name : String) (before : Chronicle) :
    Except Service.OpenFault Nat → Chronicle → Prop where
  | refused (fault : Service.OpenFault) : Opened name before (.error fault) before
  | live {index : Nat} :
      before.find? name = some index → Opened name before (.ok index) before
  | fresh {history : List Message} {ledger : Channel.Ledger} :
      before.find? name = none → before.backend.load name = .ok history →
        ledger = .ofHistory name before.limit history →
        Opened name before (.ok before.ledgers.length)
          { before.push ledger with
            entries := (name, before.ledgers.length) ::
              before.entries.filter fun entry => entry.1 ≠ name }
  /-- another instance appeared meanwhile -/
  | surplus {history : List Message} {ledger : Channel.Ledger} {existing : Nat} :
      before.backend.load name = .ok history →
        ledger = .ofHistory name before.limit history →
        (before.push ledger).find? name = some existing →
        Opened name before (.ok existing) (before.push (ledger.closeIf true))

/-- Some instances were closed, among them all that are not listed any more. -/
structure Swept (before after : Chronicle) (closing : Nat → Bool) : Prop where
  limit : after.limit = before.limit
  backend : after.backend = before.backend
  ledgers : ∀ index, after.ledgers[index]? = before.ledgers[index]?.map (Channel.Ledger.closeIf (closing index))
  fewer : after.entries.Sublist before.entries
  dropped : ∀ entry ∈ before.entries, entry ∈ after.entries ∨ closing entry.2 = true

section

variable {before after : Chronicle} {closing : Nat → Bool} {index : Nat} {ledger : Channel.Ledger}

theorem Swept.exists_before (swept : Swept before after closing)
    (present : after.ledgers[index]? = some ledger) :
    ∃ old, before.ledgers[index]? = some old ∧ ledger = old.closeIf (closing index) := by
  rw [swept.ledgers] at present
  rcases Option.map_eq_some_iff.mp present with ⟨old, found, rfl⟩
  exact ⟨old, found, rfl⟩

/-- An instance that is open after a sweep is the one that there was before, and is still listed. -/
theorem Swept.of_open (swept : Swept before after closing)
    (present : after.ledgers[index]? = some ledger) (isOpen : ledger.closed = false) :
    before.ledgers[index]? = some ledger ∧
      ∀ name, (name, index) ∈ before.entries → (name, index) ∈ after.entries := by
  rcases swept.exists_before present with ⟨old, found, rfl⟩
  obtain ⟨spared, -⟩ : closing index = false ∧ old.closed = false :=
    Bool.or_eq_false_iff.mp isOpen
  refine ⟨by rw [spared, Channel.Ledger.closeIf_false]; exact found, fun name listed => ?_⟩
  exact (swept.dropped _ listed).resolve_right (by simp [spared])

end

end Chronicle

namespace Service

open Operation

theorem isClosed_chronicle (service : Service) (index : Nat) :
    service.chronicle.isClosed index = service.isClosed index := by
  rw [Chronicle.isClosed, getElem?_ledgers, isClosed, Service.channel,
    Array.getD_eq_getD_getElem?]
  cases service.channels[index]? <;> rfl

theorem find?_chronicle (service : Service) (name : String) :
    service.chronicle.find? name = service.find? name := by
  rw [Chronicle.find?, Service.find?, Directory.find?]
  simp only [isClosed_chronicle]
  rfl

/-! ## Opening -/

theorem insert_of_live {service : Service} {name : String} {existing : Nat}
    (found : service.chronicle.find? name = some existing) (index : Nat) :
    service.directory.insert service.isClosed name index = (some existing, service.directory) := by
  rw [find?_chronicle, Service.find?] at found
  rw [Directory.insert, found]

theorem insert_of_none {service : Service} {name : String}
    (found : service.chronicle.find? name = none) (index : Nat) :
    service.directory.insert service.isClosed name index =
      (none,
        { service.directory with
          entries := (name, index) ::
            service.directory.entries.filter fun entry => entry.1 ≠ name }) := by
  rw [find?_chronicle, Service.find?] at found
  rw [Directory.insert, found]

/-- A loaded instance is put under its name, unless a live one stands there. -/
theorem ends_insertLoaded {name : String} {index : Nat} {before after : Service}
    {existing : Option Nat}
    (ends : Ends (insertLoaded name index) before (.ok existing) after) :
    existing = before.chronicle.find? name ∧
      after.chronicle =
        if existing.isSome then before.chronicle
        else
          { before.chronicle with
            entries := (name, index) ::
              before.chronicle.entries.filter fun entry => entry.1 ≠ name } := by
  rcases ends_act.mp ends with ⟨rfl, rfl⟩
  cases found : before.chronicle.find? name with
  | some live =>
      rw [insert_of_live found]
      exact ⟨rfl, rfl⟩
  | none =>
      rw [insert_of_none found]
      exact ⟨rfl, rfl⟩

theorem ends_onChannel {α : Type} {index : Nat} {act : Channel → α × Channel}
    {before after : Service} {value : α}
    (ends : Ends (onChannel index act) before (.ok value) after) :
    value = (act (before.channel index)).1 ∧
      after.chronicle = before.chronicle.set index (act (before.channel index)).2.ledger := by
  rcases ends_act.mp ends with ⟨same, rfl⟩
  exact ⟨same, chronicle_withChannel index act before⟩

theorem keeps_startRefreshTimer (index : Nat) : Keeps chronicle (startRefreshTimer index) :=
  Keeps.modify fun _ => rfl

/-- An instance that was added last is closed at once. -/
theorem ends_close_pushed {before : Chronicle} {ledger : Channel.Ledger}
    {added closed : Service} (pushed : added.chronicle = before.push ledger)
    (ends : Ends (onChannel before.ledgers.length fun channel => ((), channel.close)) added
      (.ok ()) closed) :
    closed.chronicle = before.push (ledger.closeIf true) := by
  rcases ends_onChannel ends with ⟨-, written⟩
  have here : (added.channel before.ledgers.length).ledger = ledger :=
    ledger_channel (by rw [pushed]; simp [Chronicle.push])
  rw [Channel.ledger_close, here, pushed, Chronicle.set_push] at written
  exact written

theorem ends_openChannel {name : String} {before after : Service} {reply : Except OpenFault Nat}
    (ends : Ends (openChannel name) before (.ok reply) after) :
    Chronicle.Opened name before.chronicle reply after.chronicle := by
  rw [openChannel] at ends
  split at ends
  · rcases ends_pure.mp ends with ⟨rfl, rfl⟩
    exact .refused .invalidName
  · replace ends := ends_ask_bind.mp ends
    rw [← find?_chronicle] at ends
    cases found : before.chronicle.find? name with
    | some index =>
        rw [found] at ends
        rcases ends_pure.mp ends with ⟨rfl, rfl⟩
        exact .live found
    | none =>
        rw [found] at ends
        rcases ends_bind.mp ends with ⟨answer, middle, loading, ends⟩
        have loaded := ends_load loading
        generalize became : middle.chronicle = next at loaded
        cases loaded with
        | failed fault =>
            rcases ends_pure.mp ends with ⟨rfl, rfl⟩
            rw [became]
            exact .refused (.archive fault)
        | @loaded history given =>
            rcases ends_bind.mp ends with ⟨existing, stood, inserting, ends⟩
            rcases ends_insertLoaded inserting with ⟨standing, inserted⟩
            rw [became] at standing inserted
            cases existing with
            | some live =>
                rcases ends_bind.mp ends with ⟨_, closed, closing, ends⟩
                rcases ends_pure.mp ends with ⟨rfl, rfl⟩
                have closedIs := ends_close_pushed inserted closing
                rw [closedIs]
                exact .surplus given rfl standing.symm
            | none =>
                rcases ends_bind.mp ends with ⟨_, timed, timing, ends⟩
                rcases ends_pure.mp ends with ⟨rfl, rfl⟩
                rw [timing.keeps (keeps_startRefreshTimer _), inserted]
                exact .fresh found given rfl

/-! ## Coming and going -/

/-- Drawing again after an operation whose value is not looked at adds nothing to the chronicle. -/
theorem ends_discard_refresh {index : Nat} {α : Type} {value : α} {before after : Service}
    {result : α}
    (ends : Ends (do discard (refresh index); return value) before (.ok result) after) :
    result = value ∧ after.chronicle = before.chronicle := by
  rcases ends_bind.mp ends with ⟨_, middle, refreshed, ends⟩
  rcases ends_discard.mp refreshed with ⟨published, refreshed⟩
  rcases ends_pure.mp ends with ⟨same, rfl⟩
  exact ⟨same, refreshed.keeps (keeps_refresh index)⟩

/-- Who comes to watch is announced, or nothing is written. -/
theorem ends_join {index : Nat} {identity : String} {viewport : Viewport} {address : Net.Address}
    {before after : Service} {joined : Joined}
    (ends : Ends (join index identity viewport address) before (.ok joined) after) :
    after.chronicle = before.chronicle ∨
      ∃ reply, Chronicle.Appended index (.presence identity .join) before.chronicle reply
        after.chronicle := by
  obtain ⟨entry, entered, same, ends⟩ :=
    ends.after (keeps_onChannel fun channel => Channel.ledger_enter channel identity viewport address)
  cases entry with
  | closed =>
      rcases ends_pure.mp ends with ⟨-, rfl⟩
      exact Or.inl same
  | rejected =>
      rcases ends.after (keeps_renderNotice faceless_chronicle _ _) with ⟨notice, drawn, unchanged, ends⟩
      rcases ends_pure.mp ends with ⟨-, rfl⟩
      exact Or.inl (unchanged.trans same)
  | entered session displaced =>
      cases displaced with
      | true => exact Or.inl ((ends_discard_refresh ends).2.trans same)
      | false =>
          rcases ends_bind.mp ends with ⟨_, announced, announcing, ends⟩
          rcases ends_discard.mp announcing with ⟨reply, announcing⟩
          have appended := ends_append announcing
          rw [same] at appended
          exact Or.inr ⟨reply, (ends_discard_refresh ends).2 ▸ appended⟩

/-- Who stops watching is announced, or nothing is written. -/
theorem ends_leave {index session : Nat} {before after : Service}
    (ends : Ends (leave index session) before (.ok ()) after) :
    after.chronicle = before.chronicle ∨
      ∃ identity reply, Chronicle.Appended index (.presence identity .leave) before.chronicle reply
        after.chronicle := by
  obtain ⟨removed, without, same, ends⟩ :=
    ends.after (keeps_onChannel fun channel => Channel.ledger_remove channel session)
  cases removed with
  | none =>
      rcases ends_pure.mp ends with ⟨-, rfl⟩
      exact Or.inl same
  | some viewer =>
      obtain ⟨_, closed, unchanged, ends⟩ :=
        ends.after (keeps_onChannel fun channel => Channel.ledger_closeMailbox channel session)
      rcases ends_bind.mp ends with ⟨_, announced, announcing, refreshing⟩
      rcases ends_discard.mp announcing with ⟨reply, announcing⟩
      rcases ends_discard.mp refreshing with ⟨published, refreshing⟩
      have appended := ends_append announcing
      rw [unchanged, same] at appended
      exact Or.inr ⟨viewer.identity, reply, refreshing.keeps (keeps_refresh index) ▸ appended⟩

/-! ## Submissions -/

/-- A written message is appended; it is posted if it was kept. -/
theorem ends_post {index : Nat} {message : Message} {before after : Service}
    {reply : Except Refused Accepted}
    (ends : Ends (post index message) before (.ok reply) after) :
    ∃ answer, Chronicle.Appended index message before.chronicle answer after.chronicle ∧
      ∀ posted, reply = .ok (.posted posted) ↔ answer = .ok posted := by
  rcases ends_bind.mp ends with ⟨answer, middle, appending, ends⟩
  refine ⟨answer, ?_⟩
  have appended := ends_append appending
  cases answer with
  | ok numbered =>
      rcases ends_discard_refresh ends with ⟨rfl, same⟩
      exact ⟨same ▸ appended, fun posted => by simp⟩
  | error fault =>
      cases fault with
      | closed =>
          rcases ends_pure.mp ends with ⟨rfl, rfl⟩
          exact ⟨appended, fun posted => by simp⟩
      | archive fault =>
          rcases ends_discard_refresh ends with ⟨rfl, same⟩
          exact ⟨same ▸ appended, fun posted => by simp⟩

/-- The chronicle, and the limits by which names are cleaned. -/
def chronicleAndLimits (service : Service) : Chronicle × Intake.Limits :=
  (service.chronicle, service.intake.limits)

theorem keeps_passAddress (address : Net.Address) :
    Keeps chronicleAndLimits (passAddress address) := by
  refine Keeps.act fun service => ?_
  have same : (service.intake.pass address service.uptime).2.limits = service.intake.limits := by
    rw [Intake.pass]
    split
    · rfl
    · split <;> rfl
  exact congrArg (Prod.mk service.chronicle) same

theorem keeps_checkToken (submission : Submission) :
    Keeps chronicleAndLimits (checkToken submission) := by
  refine Keeps.bind (Keeps.ask _) fun intake => ?_
  split
  · exact Keeps.bind Keeps.now fun now => Keeps.act fun service => rfl
  · exact Keeps.pure _

/-- A submission that is posted was appended to the live channel that it names. -/
theorem ends_submit {submission : Submission} {before after : Service}
    {reply : Except Refused Accepted}
    (ends : Ends (submit submission) before (.ok reply) after) :
    (after.chronicle = before.chronicle ∧ ∀ posted, reply ≠ .ok (.posted posted)) ∨
      ∃ index message answer,
        before.chronicle.find? (before.intake.channelName submission.channel) = some index ∧
        message.kind = .text ∧
        Chronicle.Appended index message before.chronicle answer after.chronicle ∧
        ∀ posted, reply = .ok (.posted posted) ↔ answer = .ok posted := by
  rcases ends.after (keeps_passAddress _) with ⟨passes, passed, passedSame, ends⟩
  cases passes with
  | false =>
      rcases ends_pure.mp ends with ⟨rfl, rfl⟩
      exact Or.inl ⟨congrArg Prod.fst passedSame, by simp⟩
  | true =>
      rcases ends.after (keeps_checkToken _) with ⟨verdict, checked, checkedSame, ends⟩
      have unchanged := checkedSame.trans passedSame
      have sameChronicle : checked.chronicle = before.chronicle := congrArg Prod.fst unchanged
      have sameLimits : checked.intake.limits = before.intake.limits := congrArg Prod.snd unchanged
      cases verdict with
      | error refusal =>
          rcases ends_pure.mp ends with ⟨rfl, rfl⟩
          exact Or.inl ⟨sameChronicle, by simp⟩
      | ok granted =>
          replace ends := ends_ask_bind.mp ends
          have sameName : checked.intake.channelName submission.channel =
              before.intake.channelName submission.channel := by
            rw [Intake.channelName, sameLimits, Intake.channelName]
          cases found : checked.find? (checked.intake.channelName submission.channel) with
          | none =>
              simp only [id, found] at ends
              rcases ends_pure.mp ends with ⟨rfl, rfl⟩
              exact Or.inl ⟨sameChronicle, by simp⟩
          | some index =>
              simp only [id, found] at ends
              split at ends
              · rcases ends_pure.mp ends with ⟨rfl, rfl⟩
                exact Or.inl ⟨sameChronicle, by simp⟩
              · rcases ends_post ends with ⟨answer, appended, posted⟩
                rw [← find?_chronicle, sameChronicle, sameName] at found
                exact Or.inr ⟨index, _, answer, found, rfl, sameChronicle ▸ appended, posted⟩

/-! ## Sweeping -/

/-- One step of a sweep: an instance that nobody watches is closed, and not listed any more. -/
def sweep (swept : List (String × Nat) × Array Channel) (entry : String × Nat) :
    List (String × Nat) × Array Channel :=
  let (idle, channel) := (swept.2.getD entry.2 Channel.shut).closeIfIdle
  if idle then (swept.1, swept.2.setIfInBounds entry.2 channel)
  else (swept.1 ++ [entry], swept.2)

/-- The ledgers of all instances. -/
def ledgers (channels : Array Channel) : List Channel.Ledger :=
  channels.toList.map Channel.ledger

theorem sweep_of_watched {kept : List (String × Nat)} {channels : Array Channel}
    {entry : String × Nat} (watched : (channels.getD entry.2 Channel.shut).roster.isEmpty = false) :
    sweep (kept, channels) entry = (kept ++ [entry], channels) := by
  rw [← Channel.closeIfIdle_fst] at watched
  rw [sweep]
  simp only [watched]
  rfl

theorem sweep_of_idle {kept : List (String × Nat)} {channels : Array Channel}
    {entry : String × Nat} (idle : (channels.getD entry.2 Channel.shut).roster.isEmpty = true) :
    sweep (kept, channels) entry =
      (kept, channels.setIfInBounds entry.2
        (channels.getD entry.2 Channel.shut).closeIfIdle.2) := by
  rw [← Channel.closeIfIdle_fst] at idle
  rw [sweep]
  simp only [idle]
  rfl

theorem getElem?_ledgers_of_idle {channels : Array Channel} {listed : Nat}
    (idle : (channels.getD listed Channel.shut).roster.isEmpty = true) (index : Nat) :
    (ledgers (channels.setIfInBounds listed
        (channels.getD listed Channel.shut).closeIfIdle.2))[index]? =
      (ledgers channels)[index]?.map (Channel.Ledger.closeIf (decide (listed = index))) := by
  rw [ledgers, Array.toList_setIfInBounds, List.map_set, Channel.ledger_closeIfIdle, idle]
  by_cases same : listed = index
  · subst same
    by_cases within : listed < channels.size
    · simp [ledgers, within]
    · simp [ledgers, within]
  · simp [ledgers, List.getElem?_set_ne same, same]

/-- A sweep keeps some entries in their order, and closes the instances of the others. -/
theorem foldl_sweep (entries kept : List (String × Nat)) (channels : Array Channel) :
    ∃ (rest : List (String × Nat)) (closing : Nat → Bool),
      (entries.foldl sweep (kept, channels)).1 = kept ++ rest ∧ rest.Sublist entries ∧
      (∀ entry ∈ entries, entry ∈ rest ∨ closing entry.2 = true) ∧
      ∀ index, (ledgers (entries.foldl sweep (kept, channels)).2)[index]? =
        (ledgers channels)[index]?.map (Channel.Ledger.closeIf (closing index)) := by
  induction entries generalizing kept channels with
  | nil => exact ⟨[], fun _ => false, by simp, .slnil, by simp, fun index => by simp⟩
  | cons entry entries ih =>
      rw [List.foldl_cons]
      cases idle : (channels.getD entry.2 Channel.shut).roster.isEmpty with
      | false =>
          rcases ih (kept ++ [entry]) channels with ⟨rest, closing, keeps, fewer, dropped, same⟩
          rw [sweep_of_watched idle]
          refine ⟨entry :: rest, closing, by simp [keeps], fewer.cons_cons entry, ?_, same⟩
          intro other member
          rcases List.mem_cons.mp member with rfl | later
          · exact Or.inl (by simp)
          · exact (dropped other later).imp_left (List.mem_cons_of_mem entry)
      | true =>
          rw [sweep_of_idle idle]
          obtain ⟨rest, closing, keeps, fewer, dropped, same⟩ := ih kept
            (channels.setIfInBounds entry.2 (channels.getD entry.2 Channel.shut).closeIfIdle.2)
          refine ⟨rest, fun index => closing index || decide (entry.2 = index), keeps,
            fewer.cons entry, ?_, fun index => ?_⟩
          · intro other member
            rcases List.mem_cons.mp member with rfl | later
            · exact Or.inr (by simp)
            · exact (dropped other later).imp_right fun closed => by simp [closed]
          · rw [same, getElem?_ledgers_of_idle idle, Option.map_map]
            congr 1
            funext ledger
            exact Channel.Ledger.closeIf_closeIf _ _ ledger

/-- Sweeping closes instances that are not listed any more, and changes nothing else. -/
theorem ends_purge {before after : Service} {count : Nat}
    (ends : Ends purge before (.ok count) after) :
    ∃ closing, Chronicle.Swept before.chronicle after.chronicle closing := by
  rcases ends_act.mp ends with ⟨-, state⟩
  rcases foldl_sweep before.directory.entries [] before.channels with
    ⟨rest, closing, keeps, fewer, dropped, same⟩
  have listed : after.chronicle.entries = rest := by
    rw [state]
    exact keeps
  refine ⟨closing, ?_, ?_, ?_, listed ▸ fewer, listed ▸ dropped⟩
  · rw [state]
    rfl
  · rw [state]
    rfl
  · rw [state]
    exact same

end Service

end FrameChat
