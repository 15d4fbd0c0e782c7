import FrameChat.Proofs.Mailbox.Register
import Mathlib.Data.List.Basic

/-!
# When the end of a mailbox is final

An offer to a closed mailbox is refused, but a displacement is not: it leaves its notice in
whatever mailbox it finds.  A viewer that was told of the end is therefore told of a
displacement later, if one comes, and it is told of as many displacements as there are with
something received after each and before the next.

* `notices_sublist`, `length_le_notices`: how many notices are delivered.
* `end_final_iff`: when nothing comes after the end, and when at most one notice is delivered.
-/

namespace FrameChat.Mailbox

variable {α : Type}

/-- Displacements with something received after each. -/
def shown (notices : List α) : List (Action α) :=
  notices.flatMap fun notice => [.displace notice, .receive]

namespace Register

/-- The displacement whose notice is still in the slot. -/
def owed : Register α → List (Action α)
  | .shut (some notice) => [.displace notice]
  | .shut none | .accepting _ => []

namespace Leads

variable {capacity : Nat} {register last : Register α} {entries : List (Entry α)}

/-- Every notice that is delivered was left and then received. -/
theorem notices_sublist (leads : Leads capacity register entries last) :
    (shown (entries.filterMap Entry.notice?)).Sublist
      (register.owed ++ entries.map Entry.action) := by
  induction leads with
  | stay register => exact List.nil_sublist _
  | @act register last rest action _ ih =>
      have skipped (actions : List (Action α)) :
          (actions ++ rest.map Entry.action).Sublist (actions ++ action :: rest.map Entry.action) :=
        (List.sublist_cons_self _ _).append_left actions
      cases action with
      | offer frame =>
          have same : (register.perform capacity (.offer frame)).2.owed = register.owed := by
            cases register with
            | shut notice => rfl
            | accepting old =>
                rw [perform]
                split <;> rfl
          exact (same ▸ ih).trans (skipped _)
      | displace notice => cases register <;> exact ih.trans (List.sublist_append_right _ _)
      | close =>
          have same : (register.perform capacity .close).2.owed = register.owed := by
            cases register <;> rfl
          exact (same ▸ ih).trans (skipped _)
      | receive =>
          rcases register with (_ | frame) | (_ | notice)
          · exact ih.trans (skipped _)
          · exact ih.trans (skipped _)
          · exact ih.trans (skipped _)
          · exact (ih.cons_cons .receive).cons_cons (.displace notice)

/--
There are as many notices delivered as can be left and received one after the other, and one
more if there was one from the beginning.
-/
theorem length_le_notices (leads : Leads capacity register entries last) :
    (∀ notices, (shown notices).Sublist (entries.map Entry.action) →
      notices.length ≤ (entries.filterMap Entry.notice?).length) ∧
    ∀ notice, register = .shut (some notice) →
      ∀ notices, (.receive :: shown notices).Sublist (entries.map Entry.action) →
        notices.length < (entries.filterMap Entry.notice?).length := by
  induction leads with
  | stay register =>
      refine ⟨fun notices within => ?_, fun notice _ notices within => nomatch within⟩
      cases notices with
      | nil => exact Nat.le_refl 0
      | cons notice rest => cases within
  | @act register last rest action _ ih =>
      rcases ih with ⟨after, owing⟩
      have grown : (rest.filterMap Entry.notice?).length ≤
          ((⟨action, (register.perform capacity action).1⟩ :: rest).filterMap
            Entry.notice?).length :=
        ((List.sublist_cons_self _ _).filterMap _).length_le
      constructor
      · intro notices within
        cases notices with
        | nil => exact Nat.zero_le _
        | cons notice notices =>
            refine Nat.le_trans ?_ grown
            have within : (.displace notice :: .receive :: shown notices).Sublist
              (action :: rest.map Entry.action) := within
            cases action with
            | offer frame => exact after (notice :: notices) (within.of_cons_of_ne (by nofun))
            | close => exact after (notice :: notices) (within.of_cons_of_ne (by nofun))
            | receive => exact after (notice :: notices) (within.of_cons_of_ne (by nofun))
            | displace left =>
                -- Whichever displacement was meant, what is received comes behind this one.
                have received := (List.sublist_of_cons_sublist within).of_cons_of_ne (by nofun)
                cases register <;> exact owing left rfl notices received
      · rintro notice rfl notices within
        have within : (.receive :: shown notices).Sublist
          (action :: rest.map Entry.action) := within
        cases action with
        | offer frame => exact owing notice rfl notices (within.of_cons_of_ne (by nofun))
        | close => exact owing notice rfl notices (within.of_cons_of_ne (by nofun))
        | displace left => exact owing left rfl notices (within.of_cons_of_ne (by nofun))
        | receive => exact Nat.lt_succ_of_le (after notices (List.cons_sublist_cons.mp within))

/-- From a mailbox that is shut one receives a notice or the end. -/
theorem answers_of_shut (leads : Leads capacity register entries last)
    (shut : register.isShut = true) :
    ∀ entry ∈ entries, entry.action = .receive →
      entry.answer = .delivered (some .closed) ∨ ∃ notice, entry.notice? = some notice := by
  induction leads with
  | stay register => exact nofun
  | @act register last rest action _ ih =>
      rw [List.forall_mem_cons]
      refine ⟨?_, ih (by rw [isShut_perform, shut, Bool.true_or])⟩
      rintro rfl
      rcases register with frame | (_ | notice)
      · cases shut
      · exact .inl rfl
      · exact .inr ⟨notice, rfl⟩

/-- Nothing but the end is received exactly if no displacement is received any more. -/
theorem only_end_iff (leads : Leads capacity (.shut none) entries last) :
    (∀ entry ∈ entries, entry.action = .receive → entry.answer = .delivered (some .closed)) ↔
      ∀ notice, ¬ [.displace notice, .receive].Sublist (entries.map Entry.action) := by
  constructor
  · intro ends notice within
    have some_delivered : 1 ≤ (entries.filterMap Entry.notice?).length :=
      leads.length_le_notices.1 [notice] within
    rcases List.exists_mem_of_length_pos some_delivered with ⟨told, member⟩
    rcases List.mem_filterMap.mp member with ⟨⟨action, answer⟩, listed, delivered⟩
    cases action with
    | receive =>
        have closed : answer = .delivered (some .closed) := ends _ listed rfl
        rw [closed] at delivered
        cases delivered
    | offer frame => cases delivered
    | displace left => cases delivered
    | close => cases delivered
  · intro none entry member received
    rcases leads.answers_of_shut rfl entry member received with closed | ⟨notice, delivered⟩
    · exact closed
    · have told : notice ∈ entries.filterMap Entry.notice? :=
        List.mem_filterMap.mpr ⟨entry, member, delivered⟩
      have within := leads.notices_sublist
      rcases List.append_of_mem told with ⟨before, behind, split⟩
      refine absurd (List.Sublist.trans ?_ within) (none notice)
      rw [split, shown, List.flatMap_append, List.flatMap_cons]
      exact (List.sublist_append_left _ _).trans (List.sublist_append_right _ _)

end Leads

end Register

theorem map_action_transcript (mailbox : Mailbox α) (actions : List (Action α)) :
    (mailbox.transcript actions).map Entry.action = actions := by
  induction actions generalizing mailbox with
  | nil => rfl
  | cons action rest ih => rw [transcript, List.map_cons, ih]

/--
After the end was received from a mailbox nothing else is received, exactly if no displacement
is behind it with something received after that.  At most one notice is delivered, exactly if
there are no two displacements with something received after each.
-/
theorem end_final_iff (capacity : Nat) (actions : List (Action α)) :
    let entries := (empty capacity : Mailbox α).transcript actions
    (∀ earlier later, entries = earlier ++ ⟨.receive, .delivered (some .closed)⟩ :: later →
      ((∀ entry ∈ later, entry.action = .receive → entry.answer = .delivered (some .closed)) ↔
        ∀ notice, ¬ [.displace notice, .receive].Sublist (later.map Entry.action))) ∧
    ((entries.filterMap Entry.notice?).length ≤ 1 ↔
      ∀ first second,
        ¬ [.displace first, .receive, .displace second, .receive].Sublist actions) := by
  intro entries
  have leads : ∃ last, Register.Leads capacity (.accepting none) entries last := by
    have same : entries = Register.transcript capacity (.accepting none) actions :=
      Register.transcript_eq capacity (.accepting none) actions
    rcases Register.Leads.of_transcript (.accepting none) actions with ⟨last, leads, -⟩
    exact ⟨last, same ▸ leads⟩
  rcases leads with ⟨last, leads⟩
  constructor
  · intro earlier later split
    rw [split] at leads
    rcases leads.at_entry with ⟨middle, -, answer, behind⟩
    rcases Register.of_delivered answer with ⟨_, ⟨⟩, _⟩ | ⟨_, ⟨⟩, _⟩ | ⟨-, rfl⟩
    exact behind.only_end_iff
  · have actions_eq : entries.map Entry.action = actions := map_action_transcript _ actions
    constructor
    · intro one first second within
      rw [← actions_eq] at within
      exact absurd one (Nat.not_le.mpr (leads.length_le_notices.1 [first, second] within))
    · intro none
      have within : (shown (entries.filterMap Entry.notice?)).Sublist actions :=
        actions_eq ▸ leads.notices_sublist
      match told : entries.filterMap Entry.notice? with
      | [] => exact Nat.zero_le 1
      | [_] => exact Nat.le_refl 1
      | first :: second :: others =>
          rw [told, shown, List.flatMap_cons, List.flatMap_cons, ← List.append_assoc] at within
          exact absurd ((List.sublist_append_left _ _).trans within) (none first second)

/-- Two displacements reach a mailbox that is closed, and both are told after the end was. -/
theorem notices_after_end :
    ∃ later, (empty 1 : Mailbox Nat).transcript
        [.close, .receive, .displace 7, .receive, .displace 8, .receive] =
          [⟨.close, .nothing⟩] ++ ⟨.receive, .delivered (some .closed)⟩ :: later ∧
      later.filterMap Entry.notice? = [7, 8] :=
  ⟨_, rfl, rfl⟩

end FrameChat.Mailbox
