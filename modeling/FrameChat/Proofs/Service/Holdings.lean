import FrameChat.Proofs.Archive.Records
import FrameChat.Proofs.Service.History

/-!
# What the archive of a service holds

The archive of a service agrees with what was reported as kept, as long as there are numbers
left and all messages can be read again (`Run.agrees`).  When the numbers of a channel are
used up, a message takes the place of the one before it, and when a message is too long, its
channel is not given out any more.

The archive agrees with some account even then: with that of what it still holds
(`Run.exists_agrees`).  So the live instance of a name is always the one that writes to the
archive under it, with numbers that are not below any there.
-/

namespace FrameChat

namespace Account

/-- An account with other messages of one channel. -/
def replace (account : Account) (name : String) (messages : List Message) : Account :=
  account.filter (fun entry => entry.1 ≠ name) ++ messages.map (Prod.mk name)

theorem of_replace_same (account : Account) (name : String) (messages : List Message) :
    of (account.replace name messages) name = messages := by
  rw [of, replace, List.filter_append, List.map_append, List.filter_filter]
  have none : account.filter (fun entry => decide (entry.1 = name) && decide (entry.1 ≠ name)) =
      [] := by
    refine List.filter_eq_nil_iff.mpr fun entry _ both => ?_
    simp at both
  have all : (messages.map (Prod.mk name)).filter (fun entry => entry.1 = name) =
      messages.map (Prod.mk name) := by
    refine List.filter_eq_self.mpr fun entry member => ?_
    rcases List.mem_map.mp member with ⟨message, -, rfl⟩
    exact decide_eq_true rfl
  rw [none, all, List.map_nil, List.nil_append, List.map_map]
  exact List.map_id messages

theorem of_replace_of_ne (account : Account) {name other : String} (differ : other ≠ name)
    (messages : List Message) : of (account.replace name messages) other = account.of other := by
  rw [of, replace, List.filter_append, List.filter_filter]
  have none : (messages.map (Prod.mk name)).filter (fun entry => entry.1 = other) = [] := by
    refine List.filter_eq_nil_iff.mpr fun entry member same => ?_
    rcases List.mem_map.mp member with ⟨message, -, rfl⟩
    exact differ (of_decide_eq_true same).symm
  have same : account.filter (fun entry => decide (entry.1 = other) && decide (entry.1 ≠ name)) =
      account.filter fun entry => entry.1 = other := by
    refine List.filter_congr fun entry _ => ?_
    by_cases here : entry.1 = other <;> simp [here, differ]
  rw [none, same, List.append_nil, of]

end Account

namespace Chronicle

variable {limit oldest : Nat} {account reported : Account} {chronicle before after : Chronicle}

/-- What is held of an account is added to as the archive does it, whatever the number is. -/
theorem contents_replace (name : String) (message : Message) :
    Archive.Contents.add (fun name => Channel.newest limit (account.of name)) name message limit =
      fun other => Channel.newest limit (Account.of
        (account.replace name
          (Archive.place message (Channel.newest limit (account.of name)))) other) := by
  funext other
  by_cases here : other = name
  · rw [here, Archive.Contents.add_same, account.of_replace_same]
  · rw [Archive.Contents.add_of_ne _ here, account.of_replace_of_ne here]

/-- A written message is kept at the place of its number. -/
theorem Agrees.place (agrees : Agrees limit oldest account chronicle) {index : Nat}
    {ledger : Channel.Ledger} {message : Message} {backend : Archive.Backend}
    (begun : oldest ≤ index) (found : chronicle.ledgers[index]? = some ledger)
    (isOpen : ledger.closed = false) (text : message.kind = .text)
    (last : ledger.lastId = message.id)
    (kept : chronicle.backend.append ledger.name message message.time ledger.limit =
      .ok backend) :
    Agrees limit oldest
      (account.replace ledger.name
        (Archive.place message (Channel.newest limit (account.of ledger.name))))
      { chronicle with backend } := by
  -- What is placed is new or was there before.
  have placed {other : Message}
      (member : other ∈ Archive.place message (Channel.newest limit (account.of ledger.name))) :
      other = message ∨ other ∈ account.of ledger.name :=
    (Archive.mem_place member).imp_right Archive.mem_of_mem_newest
  refine { agrees with text := ?_, increasing := ?_, held := ?_, ahead := ?_ }
  · intro name other member
    by_cases here : name = ledger.name
    · rw [here, account.of_replace_same] at member
      rcases placed member with rfl | old
      · exact text
      · exact agrees.text _ other old
    · rw [account.of_replace_of_ne here] at member
      exact agrees.text name other member
  · intro name
    by_cases here : name = ledger.name
    · rw [here, account.of_replace_same]
      exact Archive.increasing_place ((agrees.increasing _).newest limit) message
    · rw [account.of_replace_of_ne here]
      exact agrees.increasing name
  · rcases agrees.held.append ledger.name message message.time ledger.limit with
      ⟨next, appended, holds⟩
    obtain rfl : next = backend := by simpa [kept] using appended.symm
    rw [agrees.limits index ledger found, contents_replace] at holds
    exact holds
  · intro other new otherBegun present otherOpen held member
    by_cases here : new.name = ledger.name
    · obtain rfl := agrees.index_eq begun otherBegun found present isOpen otherOpen here.symm
      obtain rfl := Option.some.inj (found.symm.trans present)
      rw [account.of_replace_same] at member
      rcases placed member with rfl | old
      · exact UInt64.le_of_eq last.symm
      · exact agrees.ahead index ledger begun found isOpen held old
    · rw [account.of_replace_of_ne here] at member
      exact agrees.ahead other new otherBegun present otherOpen held member

/-- An append leaves a chronicle that agrees with an account, also if no number was left. -/
theorem Agrees.exists_append (agrees : Agrees limit oldest account chronicle) {index : Nat}
    {message : Message} {reply : Except Service.AppendFault Message} (begun : oldest ≤ index)
    (appended : Appended index message chronicle reply after) :
    ∃ account, Agrees limit oldest account after := by
  cases appended with
  | refused closed => exact ⟨account, agrees⟩
  | noted found isOpen numbers presence =>
      exact ⟨account, agrees.set found rfl rfl rfl numbers.notBelow⟩
  | @kept ledger numbered backend found isOpen numbers text kept =>
      have present : (chronicle.set index (ledger.add numbered)).ledgers[index]? =
          some (ledger.add numbered) :=
        List.getElem?_set_self (List.getElem?_eq_some_iff.mp found).1
      have taken : Agrees limit oldest account (chronicle.set index (ledger.add numbered)) :=
        agrees.set found rfl rfl rfl numbers.notBelow
      have sameKind : numbered.kind = .text := by rw [numbers.same, text]
      exact ⟨_, taken.place begun present isOpen sameKind rfl kept⟩
  | lost fault found isOpen numbers text =>
      exact ⟨account, agrees.set found rfl rfl rfl numbers.notBelow⟩

/-- What is given out is what is held, so that opening a channel leaves the account as it is. -/
theorem Agrees.open_given (agrees : Agrees limit oldest account chronicle) (positive : 0 < limit)
    {name : String} {reply : Except Service.OpenFault Nat}
    (opened : Opened name chronicle reply after) : Agrees limit oldest account after := by
  cases opened with
  | refused fault => exact agrees
  | live found => exact agrees
  | @fresh history ledger absent given start =>
      obtain rfl := agrees.held.eq_of_load given
      exact agrees.fresh positive absent (agrees.sameLimit ▸ start)
  | @surplus history ledger existing given start standing =>
      exact agrees.surplus (by rw [start]; exact agrees.sameLimit)

theorem Changed.exists_agrees (changed : Changed (Own oldest before) before reported after)
    (positive : 0 < limit) (agrees : Agrees limit oldest account before) :
    ∃ account, Agrees limit oldest account after := by
  cases changed with
  | none => exact ⟨account, agrees⟩
  | opened opened => exact ⟨account, agrees.open_given positive opened⟩
  | swept swept => exact ⟨account, agrees.sweep swept⟩
  | appended own appended => exact agrees.exists_append own.1 appended

end Chronicle

namespace Service

/-- The chronicle of a service agrees with some account, however it came about. -/
theorem Run.exists_agrees {limit oldest : Nat} {service : Service} {account : Account}
    (run : Run limit oldest service account) (positive : 0 < limit) :
    ∃ held, service.chronicle.Agrees limit oldest held := by
  induction run with
  | start studio limits clock entropy blank same =>
      rw [chronicle_start, same]
      exact ⟨[], Chronicle.agrees_blank blank limit⟩
  | meanwhile _ same ih =>
      rw [same]
      exact ih
  | request _ served ih =>
      rcases ih with ⟨held, agrees⟩
      exact (served.changed_own agrees).exists_agrees positive agrees
  | @restart oldest before account _ ih =>
      rcases ih with ⟨held, agrees⟩
      have size : before.channels.size = before.chronicle.ledgers.length := by simp [chronicle]
      rw [chronicle_restart, size]
      exact ⟨held, agrees.restart⟩

end Service

end FrameChat
