import FrameChat.Proofs.Service.Account

/-!
# The history of a service

A service begins with an empty archive, answers one request after the other, and
may be started again at any time.  Each request is run as a whole; between
requests the clock may be set to anything, the random source replaced, and
faults put before the archive.  An instance of a channel is only asked for what
its own process can ask it for: a restart forgets all instances.

The archive is compared with the replies.  It holds, for each channel, exactly
the newest of the written messages that were reported as kept, and a channel
that is loaded again begins with these and counts on above them.
-/

namespace FrameChat

namespace Account

/-- What is reported as kept by the reply to a submission. -/
def posted (name : String) : Except Service.Refused Service.Accepted → Account
  | .ok (.posted message) => [(name, message)]
  | _ => []

/-- A submission reports what the append reported that it led to. -/
theorem posted_eq_reported {name : String} {message : Message}
    {reply : Except Service.Refused Service.Accepted}
    {answer : Except Service.AppendFault Message} (text : message.kind = .text)
    (same : ∀ numbered, answer = .ok numbered →
      numbered = { message with id := numbered.id, time := numbered.time })
    (replied : ∀ posted, reply = .ok (.posted posted) ↔ answer = .ok posted) :
    posted name reply = reported name message answer := by
  cases answer with
  | ok numbered =>
      rw [(replied numbered).mpr rfl, reported, if_pos text, ← same numbered rfl]
      rfl
  | error fault =>
      have nothing (accepted : Message) : reply ≠ .ok (.posted accepted) := by
        intro kept
        cases (replied accepted).mp kept
      rw [posted.eq_def, reported]
      split
      case h_1 accepted => exact absurd rfl (nothing accepted)
      case h_2 => rfl

end Account

namespace Chronicle

/--
What a request may do to a chronicle, and what it then reports as kept.  It is
said of which instances it may report something, and under which names.
-/
inductive Changed (may : Nat → String → Prop) (before : Chronicle) :
    Account → Chronicle → Prop where
  | none : Changed may before [] before
  | opened {name : String} {reply : Except Service.OpenFault Nat} {after : Chronicle} :
      Opened name before reply after → Changed may before [] after
  | swept {closing : Nat → Bool} {after : Chronicle} :
      Swept before after closing → Changed may before [] after
  | appended {index : Nat} {message : Message} {reply : Except Service.AppendFault Message}
      {name : String} {after : Chronicle} :
      may index name → Appended index message before reply after →
        Changed may before (.reported name message reply) after

/-- A notice of presence is never reported as kept. -/
theorem Changed.announced {may : Nat → String → Prop} {index : Nat} {before after : Chronicle}
    {identity : String} {kind : MessageKind} {reply : Except Service.AppendFault Message}
    {name : String} (allowed : may index name) (presence : kind ≠ .text)
    (appended : Appended index (.presence identity kind) before reply after) :
    Changed may before [] after := by
  have nothing : Account.reported name (.presence identity kind) reply = [] := by
    cases reply with
    | ok numbered => exact if_neg presence
    | error fault => rfl
  exact nothing ▸ .appended allowed appended

/-- An instance of the present process, under its own name. -/
def Own (oldest : Nat) (chronicle : Chronicle) (index : Nat) (name : String) : Prop :=
  oldest ≤ index ∧ ∀ ledger, chronicle.ledgers[index]? = some ledger → ledger.name = name

/-- No instance gave out the last number there is. -/
def NumbersLeft (chronicle : Chronicle) : Prop :=
  ∀ ledger ∈ chronicle.ledgers, ledger.lastId.toNat < UInt64.size - 1

/-- Instances stay, and their last numbers do not fall. -/
def Grows (before after : Chronicle) : Prop :=
  ∀ (index : Nat) ledger, before.ledgers[index]? = some ledger →
    ∃ next, after.ledgers[index]? = some next ∧ ledger.lastId ≤ next.lastId

theorem Grows.refl (chronicle : Chronicle) : Grows chronicle chronicle :=
  fun _ ledger found => ⟨ledger, found, UInt64.le_refl _⟩

theorem Grows.numbersLeft {before after : Chronicle} (grows : Grows before after)
    (left : after.NumbersLeft) : before.NumbersLeft := by
  intro ledger member
  rcases List.getElem?_of_mem member with ⟨index, found⟩
  rcases grows index ledger found with ⟨next, present, notBelow⟩
  exact Nat.lt_of_le_of_lt (UInt64.le_iff_toNat_le.mp notBelow)
    (left next (List.mem_of_getElem? present))

theorem grows_set {chronicle : Chronicle} {index : Nat} {ledger next : Channel.Ledger}
    (found : chronicle.ledgers[index]? = some ledger) (notBelow : ledger.lastId ≤ next.lastId) :
    Grows chronicle (chronicle.set index next) := by
  intro other old present
  refine ⟨_, getElem?_set present next, ?_⟩
  split
  case isTrue same =>
    rw [← same, found] at present
    obtain rfl := Option.some.inj present
    exact notBelow
  case isFalse => exact UInt64.le_refl _

theorem grows_push (chronicle : Chronicle) (ledger : Channel.Ledger) :
    Grows chronicle (chronicle.push ledger) :=
  fun _ old found => ⟨old, getElem?_push_of_some found ledger, UInt64.le_refl _⟩

theorem Appended.grows {index : Nat} {message : Message} {before after : Chronicle}
    {reply : Except Service.AppendFault Message}
    (appended : Appended index message before reply after) : Grows before after := by
  cases appended with
  | refused closed => exact .refl _
  | noted found isOpen numbers presence => exact grows_set found numbers.notBelow
  | kept found isOpen numbers text kept => exact grows_set found numbers.notBelow
  | lost fault found isOpen numbers text => exact grows_set found numbers.notBelow

theorem Opened.grows {name : String} {before after : Chronicle}
    {reply : Except Service.OpenFault Nat} (opened : Opened name before reply after) :
    Grows before after := by
  cases opened with
  | refused fault => exact .refl _
  | live found => exact .refl _
  | fresh absent given start => exact grows_push before _
  | surplus given start standing => exact grows_push before _

theorem Swept.grows {before after : Chronicle} {closing : Nat → Bool}
    (swept : Swept before after closing) : Grows before after := by
  intro index ledger found
  exact ⟨ledger.closeIf (closing index), by rw [swept.ledgers, found]; rfl, UInt64.le_refl _⟩

/-- An append changes no more of a message than its number and time. -/
theorem Appended.same {index : Nat} {message : Message} {before after : Chronicle}
    {reply : Except Service.AppendFault Message}
    (appended : Appended index message before reply after) :
    ∀ numbered, reply = .ok numbered →
      numbered = { message with id := numbered.id, time := numbered.time } := by
  rintro numbered rfl
  cases appended with
  | noted found isOpen numbers presence => exact numbers.same
  | kept found isOpen numbers text kept => exact numbers.same

/-- What an append reports has the number that its instance gave out last. -/
theorem Appended.reported_le {index : Nat} {message : Message} {before after : Chronicle}
    {reply : Except Service.AppendFault Message}
    (appended : Appended index message before reply after) (name : String) :
    ∀ entry ∈ Account.reported name message reply,
      ∃ ledger ∈ after.ledgers, entry.2.id ≤ ledger.lastId := by
  intro entry member
  cases appended with
  | refused closed => cases member
  | noted found isOpen numbers presence =>
      rw [Account.reported, if_neg presence] at member
      cases member
  | @kept ledger numbered backend found isOpen numbers text kept =>
      rw [Account.reported, if_pos text, ← numbers.same, List.mem_singleton] at member
      subst member
      exact ⟨ledger.add numbered,
        List.mem_set (List.getElem?_eq_some_iff.mp found).1 _, UInt64.le_refl _⟩
  | lost fault found isOpen numbers text => cases member

variable {limit oldest : Nat} {account reported : Account} {before after : Chronicle}
  {may : Nat → String → Prop}

theorem Changed.grows (changed : Changed may before reported after) : Grows before after := by
  cases changed with
  | none => exact .refl before
  | opened opened => exact opened.grows
  | swept swept => exact swept.grows
  | appended allowed appended => exact appended.grows

theorem Changed.reported_le (changed : Changed may before reported after) :
    ∀ entry ∈ reported, ∃ ledger ∈ after.ledgers, entry.2.id ≤ ledger.lastId := by
  cases changed with
  | none => simp
  | opened opened => simp
  | swept swept => simp
  | appended allowed appended => exact appended.reported_le _

/-- Whatever a request does, its report is added to the account. -/
theorem Changed.agrees (changed : Changed (Own oldest before) before reported after)
    (positive : 0 < limit) (agrees : Agrees limit oldest account before) (left : before.NumbersLeft)
    (fits : ∀ entry ∈ account, entry.2.Fits) :
    Agrees limit oldest (account ++ reported) after := by
  cases changed with
  | none =>
      rw [List.append_nil]
      exact agrees
  | opened opened =>
      rw [List.append_nil]
      exact agrees.open positive fits opened
  | swept swept =>
      rw [List.append_nil]
      exact agrees.sweep swept
  | appended own appended => exact agrees.append own.1 own.2 left appended

end Chronicle

namespace Service

open Operation

/--
A request is answered as a whole, with what it reports as kept.  Instances from
`oldest` on are those of the present process.
-/
inductive Served (oldest : Nat) (before : Service) : Account → Service → Prop where
  | openChannel {name : String} {reply : Except OpenFault Nat} {after : Service} :
      Ends (openChannel name) before (.ok reply) after → Served oldest before [] after
  | join {index : Nat} {identity : String} {viewport : Viewport} {address : Net.Address}
      {joined : Joined} {after : Service} :
      oldest ≤ index → Ends (join index identity viewport address) before (.ok joined) after →
        Served oldest before [] after
  | leave {index session : Nat} {after : Service} :
      oldest ≤ index → Ends (leave index session) before (.ok ()) after →
        Served oldest before [] after
  | append {index : Nat} {message : Message} {reply : Except AppendFault Message}
      {after : Service} :
      oldest ≤ index → Ends (append index message) before (.ok reply) after →
        Served oldest before (.reported (before.channel index).name message reply) after
  | submit {submission : Submission} {reply : Except Refused Accepted} {after : Service} :
      Ends (submit submission) before (.ok reply) after →
        Served oldest before (.posted (before.intake.channelName submission.channel) reply) after
  | refresh {index : Nat} {published : Bool} {after : Service} :
      oldest ≤ index → Ends (refresh index) before (.ok published) after →
        Served oldest before [] after
  | purge {count : Nat} {after : Service} :
      Ends purge before (.ok count) after → Served oldest before [] after

/-- What a service may come to, by requests in any order, with what was reported as kept. -/
inductive Run (limit : Nat) : Nat → Service → Account → Prop where
  | start (studio : Studio) {settings : Channel.Settings} (limits : Intake.Limits)
      (clock : Seconds) (entropy : Entropy) {archive : Archive} :
      archive.backend.Blank → settings.historyLimit = limit →
        Run limit 0 (Service.start studio settings limits clock entropy archive) []
  /-- clock, random source, faults to come and all else may change that is not in the chronicle -/
  | meanwhile {oldest : Nat} {before after : Service} {account : Account} :
      Run limit oldest before account → after.chronicle = before.chronicle →
        Run limit oldest after account
  | request {oldest : Nat} {before after : Service} {account reported : Account} :
      Run limit oldest before account → Served oldest before reported after →
        Run limit oldest after (account ++ reported)
  | restart {oldest : Nat} {before : Service} {account : Account} :
      Run limit oldest before account → Run limit before.channels.size before.restart account

variable {limit oldest : Nat} {before after service : Service} {account reported : Account}

/-- What a request does to the chronicle, if it may append to the instances that it asks for. -/
theorem Served.changed {may : Nat → String → Prop}
    (served : Served oldest before reported after)
    (asked : ∀ index, oldest ≤ index → may index (before.channel index).name)
    (live : ∀ name index, before.chronicle.find? name = some index → may index name) :
    before.chronicle.Changed may reported after.chronicle := by
  cases served with
  | openChannel ends => exact .opened (ends_openChannel ends)
  | @join index _ _ _ _ _ begun ends =>
      rcases ends_join ends with same | ⟨reply, appended⟩
      · exact same ▸ .none
      · exact .announced (asked index begun) (by decide) appended
  | @leave index _ _ begun ends =>
      rcases ends_leave ends with same | ⟨identity, reply, appended⟩
      · exact same ▸ .none
      · exact .announced (asked index begun) (by decide) appended
  | @append index _ _ _ begun ends => exact .appended (asked index begun) (ends_append ends)
  | @submit submission reply _ ends =>
      rcases ends_submit ends with ⟨same, unposted⟩ |
        ⟨index, message, answer, found, text, appended, replied⟩
      · have nothing : Account.posted (before.intake.channelName submission.channel) reply = [] := by
          rw [Account.posted.eq_def]
          split
          case h_1 posted => exact absurd rfl (unposted posted)
          case h_2 => rfl
        rw [nothing, same]
        exact .none
      · rw [Account.posted_eq_reported text appended.same replied]
        exact .appended (live _ index found) appended
  | refresh begun ends => exact ends.keeps (keeps_refresh _) ▸ .none
  | purge ends =>
      rcases ends_purge ends with ⟨closing, swept⟩
      exact .swept swept

/-- No request lowers a last number, whatever it appends to. -/
theorem Served.changed_somehow (served : Served oldest before reported after) :
    before.chronicle.Changed (fun _ _ => True) reported after.chronicle :=
  served.changed (fun _ _ => trivial) fun _ _ _ => trivial

/-- A request appends to instances of the present process, under their own names. -/
theorem Served.changed_own (served : Served oldest before reported after)
    (agrees : before.chronicle.Agrees limit oldest account) :
    before.chronicle.Changed (before.chronicle.Own oldest) reported after.chronicle := by
  refine served.changed (fun index begun => ⟨begun, fun ledger found => ?_⟩)
    fun name index found => ?_
  · exact congrArg Channel.Ledger.name (ledger_channel found).symm
  · rcases agrees.of_find? found with ⟨begun, ledger, present, named⟩
    refine ⟨begun, fun other otherFound => ?_⟩
    rw [present] at otherFound
    exact Option.some.inj otherFound ▸ named

theorem chronicle_start (studio : Studio) (settings : Channel.Settings) (limits : Intake.Limits)
    (clock : Seconds) (entropy : Entropy) (archive : Archive) :
    (Service.start studio settings limits clock entropy archive).chronicle =
      ⟨settings.historyLimit, archive.backend, [], []⟩ := by
  rw [Service.start]
  rcases Entropy.bytes keyLength entropy with ⟨key, rest⟩
  rfl

theorem chronicle_restart (service : Service) :
    service.restart.chronicle = { service.chronicle with entries := [] } := by
  rw [restart]
  rcases Entropy.bytes keyLength service.entropy with ⟨key, rest⟩
  rfl

/-- The chronicle of a service agrees with what was reported, however it came about. -/
theorem Run.agrees (run : Run limit oldest service account) (positive : 0 < limit)
    (left : service.chronicle.NumbersLeft) (fits : ∀ entry ∈ account, entry.2.Fits) :
    service.chronicle.Agrees limit oldest account := by
  induction run with
  | start studio limits clock entropy blank same =>
      rw [chronicle_start, same]
      exact Chronicle.agrees_blank blank limit
  | meanwhile _ same ih =>
      rw [same] at left ⊢
      exact ih left fits
  | @request oldest before after account reported _ served ih =>
      -- Numbers are left at the end, so they were left all the time: none ever falls.
      have leftBefore := served.changed_somehow.grows.numbersLeft left
      have fitsBefore : ∀ entry ∈ account, entry.2.Fits :=
        fun entry member => fits entry (List.mem_append_left reported member)
      have agrees := ih leftBefore fitsBefore
      exact (served.changed_own agrees).agrees positive agrees leftBefore fitsBefore
  | @restart oldest before account _ ih =>
      have size : before.channels.size = before.chronicle.ledgers.length := by simp [chronicle]
      rw [chronicle_restart] at left ⊢
      rw [size]
      exact (ih left fits).restart

/-- Some instance gave out a number that is not below that of a message that was kept. -/
theorem Run.reported_le (run : Run limit oldest service account) :
    ∀ entry ∈ account, ∃ ledger ∈ service.chronicle.ledgers, entry.2.id ≤ ledger.lastId := by
  induction run with
  | start => simp
  | meanwhile _ same ih =>
      rw [same]
      exact ih
  | request _ served ih =>
      intro entry member
      rcases List.mem_append.mp member with old | new
      · rcases ih entry old with ⟨ledger, present, notAbove⟩
        rcases List.getElem?_of_mem present with ⟨index, found⟩
        rcases served.changed_somehow.grows index ledger found with ⟨next, nextFound, notBelow⟩
        exact ⟨next, List.mem_of_getElem? nextFound, UInt64.le_trans notAbove notBelow⟩
      · exact served.changed_somehow.reported_le entry new
  | restart _ ih =>
      rw [chronicle_restart]
      exact ih

/-- The last number with which an instance begins is one that was kept, and may be exceeded. -/
theorem Run.lastId_lt (run : Run limit oldest service account)
    (left : service.chronicle.NumbersLeft) {name : String} {kept : List Message}
    (known : ∀ message ∈ kept, message ∈ account.of name) (some : kept ≠ []) :
    ((kept.getLast?.map Message.id).getD 0).toNat < UInt64.size - 1 := by
  rw [List.getLast?_eq_some_getLast some, Option.map_some, Option.getD_some]
  have member := Account.mem_of.mp (known _ (List.getLast_mem some))
  rcases run.reported_le _ member with ⟨ledger, present, notAbove⟩
  exact Nat.lt_of_le_of_lt (UInt64.le_iff_toNat_le.mp notAbove) (left ledger present)

/--
A channel that is opened while it is not live begins with what was kept of it,
and counts on above all of that.
-/
theorem Run.opened_again (run : Run limit oldest service account) (positive : 0 < limit)
    (left : service.chronicle.NumbersLeft) (fits : ∀ entry ∈ account, entry.2.Fits)
    {name : String} (absent : service.find? name = none) {index : Nat} {opened : Service}
    (ends : Ends (openChannel name) service (.ok (.ok index)) opened) :
    (opened.channel index).log = Channel.newest limit (account.of name) ∧
      ∀ now message numbered, ((opened.channel index).record now message).1 = some numbered →
        ∀ kept ∈ Channel.newest limit (account.of name), kept.id < numbered.id := by
  have agrees := run.agrees positive left fits
  rw [← find?_chronicle] at absent
  have change := ends_openChannel ends
  generalize answer : Except.ok index = reply at change
  generalize became : opened.chronicle = next at change
  cases change with
  | refused fault => cases answer
  | live found =>
      rw [absent] at found
      cases found
  | surplus given start standing =>
      rw [agrees.find?_push, absent] at standing
      cases standing
  | @fresh history ledger none given start =>
      obtain rfl := Except.ok.inj answer
      obtain rfl := Except.ok.inj ((agrees.load fits name).symm.trans given)
      have here : (opened.channel service.chronicle.ledgers.length).ledger = ledger :=
        ledger_channel (by rw [became]; simp [Chronicle.push])
      rw [start, agrees.sameLimit, Channel.Ledger.ofHistory_newest] at here
      refine ⟨congrArg Channel.Ledger.log here, fun now message numbered recorded kept member => ?_⟩
      have isOpen : (opened.channel service.chronicle.ledgers.length).closed = false :=
        congrArg Channel.Ledger.closed here
      have last : (opened.channel service.chronicle.ledgers.length).ledger.lastId =
          ((Channel.newest limit (account.of name)).getLast?.map Message.id).getD 0 :=
        congrArg Channel.Ledger.lastId here
      rcases Channel.record_of_open isOpen now message with ⟨given, same, -, numbers, -⟩
      obtain rfl : given = numbered := Option.some.inj (same.symm.trans recorded)
      have room := run.lastId_lt left (fun _ => Archive.mem_of_mem_newest)
        (List.ne_nil_of_mem member)
      have notAbove := Channel.le_getLast_id ((agrees.increasing name).newest limit) member
      rw [← last] at room notAbove
      exact UInt64.lt_of_le_of_lt notAbove (numbers.above room)

/--
The archive holds of each channel exactly the newest of the written messages that
were reported as kept, in the order of the reports.  A channel that is not live
begins with these when it is opened, and its numbers go on above all of them.
-/
theorem Run.archive_agrees (run : Run limit oldest service account) (positive : 0 < limit)
    (left : service.chronicle.NumbersLeft) (fits : ∀ entry ∈ account, entry.2.Fits)
    (name : String) :
    service.archive.backend.load name = .ok (Channel.newest limit (account.of name)) ∧
      (∀ message ∈ account.of name, message.kind = .text) ∧
      Message.Increasing (account.of name) ∧
      (service.find? name = none → ∀ index opened,
        Ends (openChannel name) service (.ok (.ok index)) opened →
          (opened.channel index).log = Channel.newest limit (account.of name) ∧
            ∀ now message numbered,
              ((opened.channel index).record now message).1 = some numbered →
                ∀ kept ∈ Channel.newest limit (account.of name), kept.id < numbered.id) := by
  have agrees := run.agrees positive left fits
  exact ⟨agrees.load fits name, agrees.text name, agrees.increasing name,
    fun absent _ _ ends => run.opened_again positive left fits absent ends⟩

/-- A message is kept, the service is started again, and its channel is opened again. -/
theorem archive_agrees_after_restart :
    ∃ (service : Service) (account : Account),
      Run 50 1 service account ∧ account.length = 1 ∧
      service.archive.backend.load "lobby" = .ok (Channel.newest 50 (account.of "lobby")) ∧
      (∀ message ∈ account.of "lobby", message.kind = .text) ∧
      Message.Increasing (account.of "lobby") ∧
      (service.find? "lobby" = none → ∀ index opened,
        Ends (openChannel "lobby") service (.ok (.ok index)) opened →
          (opened.channel index).log = Channel.newest 50 (account.of "lobby") ∧
            ∀ now message numbered,
              ((opened.channel index).record now message).1 = some numbered →
                ∀ kept ∈ Channel.newest 50 (account.of "lobby"), kept.id < numbered.id) := by
  have opened : (Service.run (openChannel "lobby") bare).1 = .ok (.ok 0) := rfl
  obtain ⟨numbered, appended⟩ : ∃ numbered, (Service.run (append 0 (.written "ann" "hello"))
      (Service.run (openChannel "lobby") bare).2).1 = .ok (.ok numbered) := ⟨_, rfl⟩
  have begun : Run 50 0 bare [] := .start _ _ _ _ .memory rfl
  have run := ((begun.request (.openChannel (.of_run opened))).request
    (.append (Nat.zero_le 0) (.of_run appended))).restart
  have short : (Message.written "ann" "hello").Fits := ⟨by decide, by decide⟩
  have fits : ∀ entry ∈ [] ++ [] ++ Account.reported
      ((Service.run (openChannel "lobby") bare).2.channel 0).name (.written "ann" "hello")
      (.ok numbered), entry.2.Fits := by
    intro entry member
    obtain rfl := List.mem_singleton.mp member
    exact ⟨short.author, short.text⟩
  have left : (Service.run (append 0 (.written "ann" "hello"))
      (Service.run (openChannel "lobby") bare).2).2.restart.chronicle.NumbersLeft := by
    rw [chronicle_restart, Chronicle.NumbersLeft]
    decide +kernel
  exact ⟨_, _, run, rfl, run.archive_agrees (by decide) left fits "lobby"⟩

end Service

end FrameChat

