import FrameChat.Proofs.Archive.Contents
import FrameChat.Proofs.Lookup
import FrameChat.Proofs.Service.Requests

/-!
# The account of a chronicle

An account lists the written messages that were reported as kept, each with the
name of its channel, in the order of the reports.  `Chronicle.Agrees` says that
a chronicle agrees with an account.  What the archive holds of a channel is the
newest of its messages in the account, and the last number of the one live
instance of a channel is not below the number of any of them.

The instances that were loaded before the last restart do not count: none of
them is asked for anything any more.  There is one lemma for each change that a
request makes, and one for the restart.
-/

namespace FrameChat

/-- Messages that were reported as kept, each with the name of its channel. -/
abbrev Account := List (String × Message)

namespace Account

/-- The messages that were reported as kept of one channel. -/
def of (account : Account) (name : String) : List Message :=
  (account.filter fun entry => entry.1 = name).map Prod.snd

@[simp]
theorem of_nil (name : String) : of [] name = [] := rfl

theorem of_snoc_same (account : Account) (name : String) (message : Message) :
    of (account ++ [(name, message)]) name = account.of name ++ [message] := by
  simp [of]

theorem of_snoc_of_ne (account : Account) {name other : String} (differ : name ≠ other)
    (message : Message) : of (account ++ [(name, message)]) other = account.of other := by
  simp [of, differ]

theorem mem_of {account : Account} {name : String} {message : Message} :
    message ∈ account.of name ↔ (name, message) ∈ account := by
  simp [of]

/-- What is reported as kept by the reply to an append: a written message under its number. -/
def reported (name : String) (message : Message) :
    Except Service.AppendFault Message → Account
  | .ok numbered =>
      if message.kind = .text then
        [(name, { message with id := numbered.id, time := numbered.time })]
      else []
  | .error _ => []

end Account

theorem getLast?_newest {limit : Nat} (positive : 0 < limit) (log : List Message) :
    (Channel.newest limit log).getLast? = log.getLast? := by
  rw [Channel.newest, List.getLast?_drop]
  cases log with
  | nil => rfl
  | cons message rest =>
      rw [if_neg]
      simp only [List.length_cons]
      omega

namespace Chronicle

/-- A chronicle agrees with an account, counting the instances from `oldest` on. -/
structure Agrees (limit oldest : Nat) (account : Account) (chronicle : Chronicle) : Prop where
  sameLimit : chronicle.limit = limit
  begun : oldest ≤ chronicle.ledgers.length
  text : ∀ name, ∀ message ∈ account.of name, message.kind = .text
  increasing : ∀ name, Message.Increasing (account.of name)
  held : chronicle.backend.Holds fun name => Channel.newest limit (account.of name)
  limits : ∀ (index : Nat) ledger, chronicle.ledgers[index]? = some ledger → ledger.limit = limit
  distinct : (chronicle.entries.map Prod.fst).Nodup
  listed : ∀ entry ∈ chronicle.entries, oldest ≤ entry.2 ∧
    ∃ ledger, chronicle.ledgers[entry.2]? = some ledger ∧ ledger.name = entry.1
  /-- an open instance is the one that is listed under its name -/
  live : ∀ index ledger, oldest ≤ index → chronicle.ledgers[index]? = some ledger →
    ledger.closed = false → (ledger.name, index) ∈ chronicle.entries
  ahead : ∀ index ledger, oldest ≤ index → chronicle.ledgers[index]? = some ledger →
    ledger.closed = false → ∀ message ∈ account.of ledger.name, message.id ≤ ledger.lastId

variable {limit oldest : Nat} {account : Account} {chronicle : Chronicle}

/-- Nothing was kept of any channel, and no instance was loaded. -/
theorem agrees_blank {backend : Archive.Backend} (blank : backend.Blank) (limit : Nat) :
    Agrees limit 0 [] ⟨limit, backend, [], []⟩ where
  sameLimit := rfl
  begun := Nat.le_refl 0
  text := by simp
  increasing := fun _ => Message.Increasing.nil
  held := by
    have nothing : (fun name => Channel.newest limit (Account.of [] name)) =
        Archive.Contents.none := funext fun _ => List.drop_nil
    exact nothing ▸ blank.holds
  limits := by simp
  distinct := List.nodup_nil
  listed := by simp
  live := by simp
  ahead := by simp

/-- The live instance of a name is the only one that is open. -/
theorem Agrees.index_eq (agrees : Agrees limit oldest account chronicle) {first second : Nat}
    {ledger other : Channel.Ledger} (firstOld : oldest ≤ first) (secondOld : oldest ≤ second)
    (found : chronicle.ledgers[first]? = some ledger)
    (otherFound : chronicle.ledgers[second]? = some other)
    (isOpen : ledger.closed = false) (otherOpen : other.closed = false)
    (same : ledger.name = other.name) : first = second := by
  have here := lookup_of_mem agrees.distinct (agrees.live first ledger firstOld found isOpen)
  have there := lookup_of_mem agrees.distinct
    (agrees.live second other secondOld otherFound otherOpen)
  rw [same, there] at here
  exact (Option.some.inj here).symm

/-! ## Appending -/

theorem getElem?_set {index other : Nat} {old : Channel.Ledger}
    (present : chronicle.ledgers[other]? = some old) (next : Channel.Ledger) :
    (chronicle.set index next).ledgers[other]? = some (if index = other then next else old) := by
  rw [Chronicle.set, List.getElem?_set]
  split
  case isTrue same => rw [same, if_pos (List.getElem?_eq_some_iff.mp present).1]
  case isFalse => exact present

theorem getElem?_of_set {index other : Nat} {next new : Channel.Ledger}
    (present : (chronicle.set index next).ledgers[other]? = some new) :
    other = index ∧ new = next ∨ chronicle.ledgers[other]? = some new := by
  rw [Chronicle.set, List.getElem?_set] at present
  split at present
  case isTrue same =>
    split at present
    case isTrue => exact Or.inl ⟨same.symm, (Option.some.inj present).symm⟩
    case isFalse => cases present
  case isFalse => exact Or.inr present

/-- An instance may take a message that is not reported; what was kept stays. -/
theorem Agrees.set (agrees : Agrees limit oldest account chronicle) {index : Nat}
    {ledger next : Channel.Ledger} (found : chronicle.ledgers[index]? = some ledger)
    (sameName : next.name = ledger.name) (sameLimit : next.limit = ledger.limit)
    (sameClosed : next.closed = ledger.closed) (notBelow : ledger.lastId ≤ next.lastId) :
    Agrees limit oldest account (chronicle.set index next) := by
  -- Whatever stands in the new chronicle stands in the old one with the same name and limit.
  have before : ∀ (other : Nat) (new : Channel.Ledger),
      (chronicle.set index next).ledgers[other]? = some new → ∃ old : Channel.Ledger,
        chronicle.ledgers[other]? = some old ∧ new.name = old.name ∧
          new.limit = old.limit ∧ new.closed = old.closed ∧ old.lastId ≤ new.lastId := by
    intro other new present
    rcases getElem?_of_set present with ⟨rfl, rfl⟩ | untouched
    · exact ⟨ledger, found, sameName, sameLimit, sameClosed, notBelow⟩
    · exact ⟨new, untouched, rfl, rfl, rfl, UInt64.le_refl _⟩
  refine { agrees with begun := ?_, limits := ?_, listed := ?_, live := ?_, ahead := ?_ }
  · simpa [Chronicle.set] using agrees.begun
  · intro other new present
    rcases before other new present with ⟨old, oldFound, -, same, -⟩
    exact same.trans (agrees.limits other old oldFound)
  · intro entry member
    rcases agrees.listed entry member with ⟨begun, old, oldFound, named⟩
    refine ⟨begun, _, getElem?_set oldFound next, ?_⟩
    split
    case isTrue same =>
      rw [← same, found] at oldFound
      obtain rfl := Option.some.inj oldFound
      exact sameName.trans named
    case isFalse => exact named
  · intro other new begun present isOpen
    rcases before other new present with ⟨old, oldFound, same, -, sameClosed, -⟩
    rw [same]
    exact agrees.live other old begun oldFound (sameClosed ▸ isOpen)
  · intro other new begun present isOpen message member
    rcases before other new present with ⟨old, oldFound, same, -, sameClosed, above⟩
    rw [same] at member
    exact UInt64.le_trans
      (agrees.ahead other old begun oldFound (sameClosed ▸ isOpen) message member) above

/-- What is held of an account is added to as the account is, if the message is the last one. -/
theorem contents_snoc {name : String} {message : Message}
    (above : ∀ other ∈ account.of name, other.id < message.id) :
    Archive.Contents.add (fun name => Channel.newest limit (account.of name)) name message limit =
      fun other => Channel.newest limit (Account.of (account ++ [(name, message)]) other) := by
  funext other
  by_cases here : other = name
  · subst here
    have placed : Archive.place message (Channel.newest limit (account.of other)) =
        Channel.newest limit (account.of other) ++ [message] :=
      Archive.place_of_forall_lt fun held member => above held (Archive.mem_of_mem_newest member)
    rw [Archive.Contents.add_same, placed, account.of_snoc_same, Channel.newest_newest_append]
  · rw [Archive.Contents.add_of_ne _ here, account.of_snoc_of_ne (Ne.symm here)]

/-- A written message that is the last of its channel may be kept and reported. -/
theorem Agrees.keep (agrees : Agrees limit oldest account chronicle) {index : Nat}
    {ledger : Channel.Ledger} {message : Message} {backend : Archive.Backend}
    (begun : oldest ≤ index) (found : chronicle.ledgers[index]? = some ledger)
    (isOpen : ledger.closed = false) (text : message.kind = .text)
    (above : ∀ other ∈ account.of ledger.name, other.id < message.id)
    (last : ledger.lastId = message.id)
    (kept : chronicle.backend.append ledger.name message message.time ledger.limit =
      .ok backend) :
    Agrees limit oldest (account ++ [(ledger.name, message)]) { chronicle with backend } := by
  have others {name : String} (differ : ledger.name ≠ name) :
      Account.of (account ++ [(ledger.name, message)]) name = account.of name :=
    account.of_snoc_of_ne differ message
  have same : Account.of (account ++ [(ledger.name, message)]) ledger.name =
      account.of ledger.name ++ [message] := account.of_snoc_same ledger.name message
  refine { agrees with text := ?_, increasing := ?_, held := ?_, ahead := ?_ }
  · intro name other member
    by_cases here : ledger.name = name
    · rw [← here, same] at member
      rcases List.mem_append.mp member with old | new
      · exact agrees.text _ other old
      · rw [List.mem_singleton.mp new]
        exact text
    · exact agrees.text name other (others here ▸ member)
  · intro name
    by_cases here : ledger.name = name
    · rw [← here, same]
      exact (agrees.increasing _).snoc above
    · rw [others here]
      exact agrees.increasing name
  · rcases agrees.held.append ledger.name message message.time ledger.limit with
      ⟨next, appended, holds⟩
    obtain rfl : next = backend := by simpa [kept] using appended.symm
    rw [agrees.limits index ledger found, contents_snoc above] at holds
    exact holds
  · intro other new otherBegun present otherOpen held member
    -- No second open instance of this name could still be behind the new message.
    by_cases here : ledger.name = new.name
    · obtain rfl := agrees.index_eq begun otherBegun found present isOpen otherOpen here
      rw [found] at present
      obtain rfl := Option.some.inj present
      rw [same] at member
      rcases List.mem_append.mp member with old | latest
      · exact agrees.ahead index ledger begun found isOpen held old
      · rw [List.mem_singleton.mp latest, last]
        exact UInt64.le_refl _
    · exact agrees.ahead other new otherBegun present otherOpen held (others here ▸ member)

/-- A message is kept and reported, or neither. -/
theorem Agrees.append (agrees : Agrees limit oldest account chronicle) {index : Nat}
    {message : Message} {reply : Except Service.AppendFault Message} {after : Chronicle}
    {name : String} (begun : oldest ≤ index)
    (named : ∀ ledger, chronicle.ledgers[index]? = some ledger → ledger.name = name)
    (left : ∀ ledger ∈ chronicle.ledgers, ledger.lastId.toNat < UInt64.size - 1)
    (appended : Appended index message chronicle reply after) :
    Agrees limit oldest (account ++ Account.reported name message reply) after := by
  have unreported (presence : message.kind ≠ .text) (numbered : Message) :
      Account.reported name message (.ok numbered) = [] := if_neg presence
  cases appended with
  | refused closed =>
      rw [Account.reported, List.append_nil]
      exact agrees
  | @noted ledger numbered found isOpen numbers presence =>
      rw [unreported presence, List.append_nil]
      exact agrees.set found rfl rfl rfl numbers.notBelow
  | @kept ledger numbered backend found isOpen numbers text kept =>
      obtain rfl := named ledger found
      rw [Account.reported, if_pos text, ← numbers.same]
      have above : ledger.lastId < numbered.id :=
        numbers.above (left ledger (List.mem_of_getElem? found))
      have sameKind : numbered.kind = .text := by rw [numbers.same, text]
      have present : (chronicle.set index (ledger.add numbered)).ledgers[index]? =
          some (ledger.add numbered) :=
        List.getElem?_set_self (List.getElem?_eq_some_iff.mp found).1
      have taken : Agrees limit oldest account (chronicle.set index (ledger.add numbered)) :=
        agrees.set found rfl rfl rfl numbers.notBelow
      have aboveAll : ∀ other ∈ account.of ledger.name, other.id < numbered.id :=
        fun other member =>
          UInt64.lt_of_le_of_lt (agrees.ahead index ledger begun found isOpen other member) above
      have reported : Agrees limit oldest (account ++ [((ledger.add numbered).name, numbered)])
          { chronicle.set index (ledger.add numbered) with backend } :=
        taken.keep begun present isOpen sameKind aboveAll rfl kept
      exact reported
  | @lost ledger numbered fault found isOpen numbers text =>
      rw [Account.reported, List.append_nil]
      exact agrees.set found rfl rfl rfl numbers.notBelow

/-! ## Opening -/

/-- The archive gives out the newest messages of a channel in the account. -/
theorem Agrees.load (agrees : Agrees limit oldest account chronicle)
    (fits : ∀ entry ∈ account, entry.2.Fits) (name : String) :
    chronicle.backend.load name = .ok (Channel.newest limit (account.of name)) :=
  agrees.held.load fun message member =>
    fits (name, message) (Account.mem_of.mp (Archive.mem_of_mem_newest member))

theorem getElem?_push_of_some {index : Nat} {old : Channel.Ledger}
    (found : chronicle.ledgers[index]? = some old) (ledger : Channel.Ledger) :
    (chronicle.push ledger).ledgers[index]? = some old := by
  rw [Chronicle.push, List.getElem?_append_left (List.getElem?_eq_some_iff.mp found).1]
  exact found

theorem getElem?_push {index : Nat} {ledger found : Channel.Ledger}
    (present : (chronicle.push ledger).ledgers[index]? = some found) :
    chronicle.ledgers[index]? = some found ∨
      index = chronicle.ledgers.length ∧ found = ledger := by
  rw [Chronicle.push, List.getElem?_append] at present
  split at present
  case isTrue within => exact Or.inl present
  case isFalse beyond =>
    have bound := (List.getElem?_eq_some_iff.mp present).1
    simp only [List.length_singleton, Nat.lt_one_iff] at bound
    rw [bound] at present
    exact Or.inr ⟨by omega, (Option.some.inj present).symm⟩

/-- No open instance has a name that is not live. -/
theorem Agrees.name_ne (agrees : Agrees limit oldest account chronicle) {name : String}
    (absent : chronicle.find? name = none) {index : Nat} {ledger : Channel.Ledger}
    (begun : oldest ≤ index) (found : chronicle.ledgers[index]? = some ledger)
    (isOpen : ledger.closed = false) : ledger.name ≠ name := by
  rintro rfl
  have listed := lookup_of_mem agrees.distinct (agrees.live index ledger begun found isOpen)
  simp [find?, listed, isClosed, found, isOpen] at absent

/-- What is live under a name is an instance of that name. -/
theorem Agrees.of_find? (agrees : Agrees limit oldest account chronicle) {name : String}
    {index : Nat} (found : chronicle.find? name = some index) :
    oldest ≤ index ∧ ∃ ledger, chronicle.ledgers[index]? = some ledger ∧ ledger.name = name := by
  rcases Option.filter_eq_some_iff.mp found with ⟨listed, -⟩
  rcases List.lookup_eq_some_iff.mp listed with ⟨before, after, split, -⟩
  exact agrees.listed (name, index) (by simp [split])

/-- What is live does not depend on instances that are not listed. -/
theorem Agrees.find?_push (agrees : Agrees limit oldest account chronicle)
    (ledger : Channel.Ledger) (name : String) :
    (chronicle.push ledger).find? name = chronicle.find? name := by
  show (chronicle.entries.lookup name).filter (fun live => !(chronicle.push ledger).isClosed live) =
    (chronicle.entries.lookup name).filter fun live => !chronicle.isClosed live
  cases listed : chronicle.entries.lookup name with
  | none => rfl
  | some index =>
      rcases List.lookup_eq_some_iff.mp listed with ⟨before, after, split, -⟩
      rcases agrees.listed (name, index) (by simp [split]) with ⟨-, old, found, -⟩
      simp only [Option.filter, isClosed, found, getElem?_push_of_some found]

/-- An instance that is closed at once may be added. -/
theorem Agrees.surplus (agrees : Agrees limit oldest account chronicle) {ledger : Channel.Ledger}
    (sameLimit : ledger.limit = limit) :
    Agrees limit oldest account (chronicle.push (ledger.closeIf true)) := by
  refine { agrees with begun := ?_, limits := ?_, listed := ?_, live := ?_, ahead := ?_ }
  · exact Nat.le_trans agrees.begun (by simp [Chronicle.push])
  · intro index new present
    rcases getElem?_push present with old | ⟨-, rfl⟩
    · exact agrees.limits index new old
    · exact sameLimit
  · intro entry member
    rcases agrees.listed entry member with ⟨begun, old, found, named⟩
    exact ⟨begun, old, getElem?_push_of_some found _, named⟩
  · intro index new begun present isOpen
    rcases getElem?_push present with old | ⟨-, rfl⟩
    · exact agrees.live index new begun old isOpen
    · cases isOpen
  · intro index new begun present isOpen
    rcases getElem?_push present with old | ⟨-, rfl⟩
    · exact agrees.ahead index new begun old isOpen
    · cases isOpen

/-- An instance that begins with what was kept may be listed where none is live. -/
theorem Agrees.fresh (agrees : Agrees limit oldest account chronicle) (positive : 0 < limit)
    {name : String} (absent : chronicle.find? name = none) {ledger : Channel.Ledger}
    (start : ledger = .ofHistory name limit (Channel.newest limit (account.of name))) :
    Agrees limit oldest account
      { chronicle.push ledger with
        entries := (name, chronicle.ledgers.length) ::
          chronicle.entries.filter fun entry => entry.1 ≠ name } := by
  refine { agrees with
    begun := ?_, limits := ?_, distinct := ?_, listed := ?_, live := ?_, ahead := ?_ }
  · exact Nat.le_trans agrees.begun (by simp [Chronicle.push])
  · intro index new present
    rcases getElem?_push present with old | ⟨-, rfl⟩
    · exact agrees.limits index new old
    · rw [start]
      rfl
  · rw [List.map_cons, List.nodup_cons]
    refine ⟨?_, agrees.distinct.sublist (List.filter_sublist.map Prod.fst)⟩
    simp
  · intro entry member
    rcases List.mem_cons.mp member with rfl | old
    · exact ⟨agrees.begun, ledger, by simp [Chronicle.push], start ▸ rfl⟩
    · rcases agrees.listed entry (List.mem_filter.mp old).1 with ⟨begun, before, found, named⟩
      exact ⟨begun, before, getElem?_push_of_some found _, named⟩
  · intro index new begun present isOpen
    rcases getElem?_push present with old | ⟨rfl, rfl⟩
    · have differ := agrees.name_ne absent begun old isOpen
      exact List.mem_cons_of_mem _
        (List.mem_filter.mpr ⟨agrees.live index new begun old isOpen, by simpa using differ⟩)
    · rw [start]
      exact List.mem_cons_self
  · intro index new begun present isOpen message member
    rcases getElem?_push present with old | ⟨-, rfl⟩
    · exact agrees.ahead index new begun old isOpen message member
    · rw [start] at member ⊢
      have last := Channel.le_getLast_id (agrees.increasing name) member
      rw [← getLast?_newest positive, ← getLast?_newest positive] at last
      exact last

theorem Agrees.open (agrees : Agrees limit oldest account chronicle) (positive : 0 < limit)
    (fits : ∀ entry ∈ account, entry.2.Fits) {name : String}
    {reply : Except Service.OpenFault Nat} {after : Chronicle}
    (opened : Opened name chronicle reply after) : Agrees limit oldest account after := by
  cases opened with
  | refused fault => exact agrees
  | live found => exact agrees
  | @fresh history ledger absent given start =>
      obtain rfl := Except.ok.inj ((agrees.load fits name).symm.trans given)
      exact agrees.fresh positive absent (agrees.sameLimit ▸ start)
  | @surplus history ledger existing given start standing =>
      exact agrees.surplus (by rw [start]; exact agrees.sameLimit)

/-! ## Sweeping and restarting -/

/-- Instances may be closed, and closed ones need not be listed. -/
theorem Agrees.sweep (agrees : Agrees limit oldest account chronicle) {after : Chronicle}
    {closing : Nat → Bool} (swept : Swept chronicle after closing) :
    Agrees limit oldest account after := by
  refine
    { sameLimit := swept.limit.trans agrees.sameLimit
      begun := ?_
      text := agrees.text
      increasing := agrees.increasing
      held := swept.backend ▸ agrees.held
      limits := ?_
      distinct := agrees.distinct.sublist (swept.fewer.map Prod.fst)
      listed := ?_
      live := ?_
      ahead := ?_ }
  · have sameEnd := congrArg Option.isNone (swept.ledgers after.ledgers.length)
    simp only [List.getElem?_eq_none (Nat.le_refl _), Option.isNone_none, Option.isNone_map]
      at sameEnd
    exact Nat.le_trans agrees.begun (List.getElem?_eq_none_iff.mp (by simpa using sameEnd.symm))
  · intro index new present
    rcases swept.exists_before present with ⟨old, found, rfl⟩
    exact agrees.limits index old found
  · intro entry member
    rcases agrees.listed entry (swept.fewer.subset member) with ⟨begun, old, found, named⟩
    exact ⟨begun, old.closeIf (closing entry.2), by rw [swept.ledgers, found]; rfl, named⟩
  · intro index new begun present isOpen
    rcases swept.of_open present isOpen with ⟨found, listed⟩
    exact listed _ (agrees.live index new begun found isOpen)
  · intro index new begun present isOpen
    exact agrees.ahead index new begun (swept.of_open present isOpen).1 isOpen

/-- After a restart nothing is listed, and only new instances count. -/
theorem Agrees.restart (agrees : Agrees limit oldest account chronicle) :
    Agrees limit chronicle.ledgers.length account { chronicle with entries := [] } := by
  refine { agrees with
    begun := Nat.le_refl _, distinct := List.nodup_nil, listed := by simp, live := ?_, ahead := ?_ }
  · intro index ledger begun found
    rw [List.getElem?_eq_none begun] at found
    cases found
  · intro index ledger begun found
    rw [List.getElem?_eq_none begun] at found
    cases found

end Chronicle

end FrameChat
