import FrameChat.Mailbox

/-!
# A mailbox is a register of one slot

A mailbox has a list of frames, a place for a notice and a mark that it is closed.  Whatever
is done with it, it is no more than a `Register`: one slot for a frame as long as it is open,
and one for a notice when it is shut.  `Register.perform_mailbox` says so of one action, and
`Register.transcript_eq` of any number of them.

What a register answers is then told from what was done before (`Register.Leads`): which
offers are taken, which of them a viewer gets to see, and which notice.

* `behaves_as_register`: all this together, for every capacity and every sequence of actions.
-/

namespace FrameChat.Mailbox

variable {α : Type}

/-- What is done with a mailbox. -/
inductive Action (α : Type) where
  | offer (frame : α)
  | displace (notice : α)
  | close
  | receive
  deriving DecidableEq, Repr

/-- Whether a mailbox takes no frames after an action. -/
def Action.shuts : Action α → Bool
  | .offer _ | .receive => false
  | .displace _ | .close => true

/-- What is answered to an action. -/
inductive Answer (α : Type) where
  /-- whether an offered frame was taken -/
  | taken (accepted : Bool)
  | delivered (delivery : Option (Delivery α))
  | nothing
  deriving DecidableEq, Repr

/-- An action and what was answered to it. -/
structure Entry (α : Type) where
  action : Action α
  answer : Answer α
  deriving DecidableEq, Repr

/-- Do something with a mailbox. -/
def perform (mailbox : Mailbox α) : Action α → Answer α × Mailbox α
  | .offer frame => (.taken (mailbox.offer frame).1, (mailbox.offer frame).2)
  | .displace notice => (.nothing, mailbox.displace notice)
  | .close => (.nothing, mailbox.close)
  | .receive => (.delivered mailbox.receive.1, mailbox.receive.2)

/-- What is answered to actions one after the other. -/
def transcript : Mailbox α → List (Action α) → List (Entry α)
  | _, [] => []
  | mailbox, action :: rest =>
      ⟨action, (mailbox.perform action).1⟩ :: transcript (mailbox.perform action).2 rest

/-- The mailbox after actions. -/
def after (mailbox : Mailbox α) (actions : List (Action α)) : Mailbox α :=
  actions.foldl (fun mailbox action => (mailbox.perform action).2) mailbox

/-! ## What is in a transcript -/

/-- The frame of an offer that was taken. -/
def Entry.accepted? : Entry α → Option α
  | ⟨.offer frame, .taken true⟩ => some frame
  | _ => none

/-- The frame that was delivered. -/
def Entry.frame? : Entry α → Option α
  | ⟨.receive, .delivered (some (.frame frame))⟩ => some frame
  | _ => none

/-- The notice that was delivered. -/
def Entry.notice? : Entry α → Option α
  | ⟨.receive, .delivered (some (.displaced notice))⟩ => some notice
  | _ => none

/-- The notice that was left by a displacement. -/
def Entry.left? : Entry α → Option α
  | ⟨.displace notice, _⟩ => some notice
  | _ => none

theorem getLast?_filterMap_cons {β γ : Type} {choose : β → Option γ} {rest : List β} {newest : γ}
    (last : (rest.filterMap choose).getLast? = some newest) {first : β} :
    ((first :: rest).filterMap choose).getLast? = some newest := by
  rw [List.filterMap_cons]
  split
  · exact last
  · rw [List.getLast?_cons, last]
    rfl

/-! ## The register -/

/-- A register of one slot, for frames while it is open and for a notice when it is shut. -/
inductive Register (α : Type) where
  | accepting (frame : Option α)
  | shut (notice : Option α)
  deriving DecidableEq, Repr

namespace Register

/-- Whether a register takes no frames. -/
def isShut : Register α → Bool
  | .accepting _ => false
  | .shut _ => true

/-- Do something with a register; without any capacity it takes no frame. -/
def perform (capacity : Nat) : Register α → Action α → Answer α × Register α
  | .accepting _, .offer frame =>
      if capacity = 0 then (.taken false, .accepting none)
      else (.taken true, .accepting (some frame))
  | .shut notice, .offer _ => (.taken false, .shut notice)
  | _, .displace notice => (.nothing, .shut (some notice))
  | .accepting _, .close => (.nothing, .shut none)
  | .shut notice, .close => (.nothing, .shut notice)
  | .accepting frame, .receive => (.delivered (frame.map .frame), .accepting none)
  | .shut notice, .receive => (.delivered (some (notice.elim .closed .displaced)), .shut none)

/-- What is answered to actions one after the other. -/
def transcript (capacity : Nat) : Register α → List (Action α) → List (Entry α)
  | _, [] => []
  | register, action :: rest =>
      ⟨action, (register.perform capacity action).1⟩ ::
        transcript capacity (register.perform capacity action).2 rest

/-- The mailbox that a register stands for. -/
def mailbox (capacity : Nat) : Register α → Mailbox α
  | .accepting frame => ⟨capacity, frame.toList, none, false⟩
  | .shut notice => ⟨capacity, [], notice, true⟩

/-- The mailbox of a register does what the register does. -/
theorem perform_mailbox (capacity : Nat) (register : Register α) (action : Action α) :
    (register.mailbox capacity).perform action =
      ((register.perform capacity action).1,
        (register.perform capacity action).2.mailbox capacity) := by
  cases register with
  | accepting frame =>
      cases action with
      | offer offered =>
          by_cases none : capacity = 0 <;>
            simp [mailbox, perform, Mailbox.perform, Mailbox.offer, none]
      | displace notice => rfl
      | close => rfl
      | receive => cases frame <;> rfl
  | shut notice =>
      cases action with
      | offer offered => rfl
      | displace other => rfl
      | close => rfl
      | receive => cases notice <;> rfl

theorem transcript_eq (capacity : Nat) (register : Register α) (actions : List (Action α)) :
    (register.mailbox capacity).transcript actions = register.transcript capacity actions := by
  induction actions generalizing register with
  | nil => rfl
  | cons action rest ih => rw [Mailbox.transcript, transcript, perform_mailbox, ih]

/-! ### Single actions -/

theorem isShut_perform (capacity : Nat) (register : Register α) (action : Action α) :
    (register.perform capacity action).2.isShut = (register.isShut || action.shuts) := by
  cases register with
  | shut notice => cases action <;> rfl
  | accepting frame =>
      cases action with
      | offer offered =>
          rw [perform]
          split <;> rfl
      | displace notice => rfl
      | close => rfl
      | receive => rfl

/-- A frame comes into the slot only when its offer is taken, for which there must be room. -/
theorem accepted_of_perform {capacity : Nat} {register : Register α} {action : Action α} {frame : α}
    (holds : (register.perform capacity action).2 = .accepting (some frame)) :
    0 < capacity ∧
      Entry.accepted? ⟨action, (register.perform capacity action).1⟩ = some frame := by
  cases register with
  | shut notice => cases action <;> cases holds
  | accepting old =>
      cases action with
      | offer offered =>
          rw [perform] at holds ⊢
          split at holds
          case isTrue => cases holds
          case isFalse some =>
            cases holds
            exact ⟨Nat.pos_of_ne_zero some, by rw [if_neg some]; rfl⟩
      | displace notice => cases holds
      | close => cases holds
      | receive => cases holds

/-- A notice in the slot was left just now, or was there before. -/
theorem left_of_perform {capacity : Nat} {register : Register α} {action : Action α} {notice : α}
    (holds : (register.perform capacity action).2 = .shut (some notice)) :
    Entry.left? ⟨action, (register.perform capacity action).1⟩ = some notice ∨
      Entry.left? ⟨action, (register.perform capacity action).1⟩ = none ∧
        register = .shut (some notice) := by
  cases register with
  | accepting old =>
      cases action with
      | offer offered =>
          rw [perform] at holds
          split at holds <;> cases holds
      | displace other =>
          cases holds
          exact .inl rfl
      | close => cases holds
      | receive => cases holds
  | shut pending =>
      cases action with
      | offer offered => exact .inr ⟨rfl, holds⟩
      | displace other =>
          cases holds
          exact .inl rfl
      | close => exact .inr ⟨rfl, holds⟩
      | receive => cases holds

/-- What is delivered is what the register holds, and the end if it is shut and holds nothing. -/
theorem of_delivered {capacity : Nat} {register : Register α} {delivery : Delivery α}
    (answer : Answer.delivered (some delivery) = (register.perform capacity .receive).1) :
    (∃ frame, delivery = .frame frame ∧ register = .accepting (some frame)) ∨
      (∃ notice, delivery = .displaced notice ∧ register = .shut (some notice)) ∨
      delivery = .closed ∧ register = .shut none := by
  cases register with
  | accepting frame =>
      cases frame with
      | none => cases answer
      | some frame =>
          cases answer
          exact .inl ⟨frame, rfl, rfl⟩
  | shut notice =>
      cases notice with
      | none =>
          cases answer
          exact .inr (.inr ⟨rfl, rfl⟩)
      | some notice =>
          cases answer
          exact .inr (.inl ⟨notice, rfl, rfl⟩)

/-! ### Many actions -/

/-- A register comes to another one, with what is done and answered on the way. -/
inductive Leads (capacity : Nat) : Register α → List (Entry α) → Register α → Prop where
  | stay (register : Register α) : Leads capacity register [] register
  | act {register last : Register α} {entries : List (Entry α)} (action : Action α) :
      Leads capacity (register.perform capacity action).2 entries last →
        Leads capacity register (⟨action, (register.perform capacity action).1⟩ :: entries) last

namespace Leads

variable {capacity : Nat} {register last : Register α} {entries : List (Entry α)}

theorem of_transcript (register : Register α) (actions : List (Action α)) :
    ∃ last, Leads capacity register (register.transcript capacity actions) last ∧
      last.mailbox capacity = (register.mailbox capacity).after actions := by
  induction actions generalizing register with
  | nil => exact ⟨register, .stay register, rfl⟩
  | cons action rest ih =>
      rcases ih (register.perform capacity action).2 with ⟨last, leads, same⟩
      refine ⟨last, .act action leads, same.trans ?_⟩
      rw [after, after, List.foldl_cons, perform_mailbox]

theorem append {earlier later : List (Entry α)}
    (leads : Leads capacity register (earlier ++ later) last) :
    ∃ middle, Leads capacity register earlier middle ∧ Leads capacity middle later last := by
  induction earlier generalizing register with
  | nil => exact ⟨register, .stay register, leads⟩
  | cons entry rest ih =>
      cases leads with
      | act action leads =>
          rcases ih leads with ⟨middle, first, second⟩
          exact ⟨middle, .act action first, second⟩

/-- What is answered to an action, and what comes after it, at any place of a transcript. -/
theorem at_entry {earlier later : List (Entry α)} {entry : Entry α}
    (leads : Leads capacity register (earlier ++ entry :: later) last) :
    ∃ middle : Register α, Leads capacity register earlier middle ∧
      entry.answer = (middle.perform capacity entry.action).1 ∧
      Leads capacity (middle.perform capacity entry.action).2 later last := by
  rcases leads.append with ⟨middle, first, second⟩
  cases second with
  | act action second => exact ⟨middle, first, rfl, second⟩

/-- A register is shut exactly if it was from the beginning, or something shut it. -/
theorem isShut_iff (leads : Leads capacity register entries last) :
    last.isShut = true ↔
      register.isShut = true ∨ ∃ entry ∈ entries, entry.action.shuts = true := by
  induction leads with
  | stay register => simp
  | act action _ ih => rw [ih, isShut_perform, Bool.or_eq_true]; simp [or_assoc]

/-- Without capacity no frame comes into the slot. -/
theorem positive {frame : α} (leads : Leads capacity register entries last)
    (holds : last = .accepting (some frame)) :
    0 < capacity ∨ register = .accepting (some frame) := by
  induction leads with
  | stay register => exact .inr holds
  | act action _ ih => exact .inl ((ih holds).elim id fun held => (accepted_of_perform held).1)

/-- The frame in the slot is the one that was taken last. -/
theorem getLast?_accepted {frame : α} (leads : Leads capacity register entries last)
    (holds : last = .accepting (some frame)) :
    (entries.filterMap Entry.accepted?).getLast? = some frame ∨
      entries = [] ∧ register = .accepting (some frame) := by
  induction leads with
  | stay register => exact .inr ⟨rfl, holds⟩
  | act action _ ih =>
      left
      rcases ih holds with newest | ⟨rfl, held⟩
      · exact getLast?_filterMap_cons newest
      · rw [List.filterMap_cons, (accepted_of_perform held).2]
        rfl

/-- The notice in the slot is the one that was left last. -/
theorem getLast?_left {notice : α} (leads : Leads capacity register entries last)
    (holds : last = .shut (some notice)) :
    (entries.filterMap Entry.left?).getLast? = some notice ∨
      entries.filterMap Entry.left? = [] ∧ register = .shut (some notice) := by
  induction leads with
  | stay register => exact .inr ⟨rfl, holds⟩
  | act action _ ih =>
      rcases ih holds with newest | ⟨none, held⟩
      · exact .inl (getLast?_filterMap_cons newest)
      · rcases left_of_perform held with left | ⟨nothing, same⟩
        · exact .inl (by rw [List.filterMap_cons, left, none]; rfl)
        · exact .inr ⟨by rw [List.filterMap_cons, nothing, none], same⟩

/-- A notice waits until something is received, or another notice takes its place. -/
theorem notice_waits {notice : α} (leads : Leads capacity (.shut (some notice)) entries last)
    (undisturbed : ∀ entry ∈ entries, entry.action ≠ .receive ∧ entry.left? = none) :
    last = .shut (some notice) := by
  induction entries with
  | nil =>
      cases leads with
      | stay => rfl
  | cons entry rest ih =>
      rw [List.forall_mem_cons] at undisturbed
      cases leads with
      | act action leads =>
          refine ih ?_ undisturbed.2
          cases action with
          | offer frame => exact leads
          | displace other => cases undisturbed.1.2
          | close => exact leads
          | receive => exact absurd rfl undisturbed.1.1

/-- A register that is shut takes no frame and delivers none. -/
theorem frameless (leads : Leads capacity register entries last) (shut : register.isShut = true) :
    entries.filterMap Entry.accepted? = [] ∧ entries.filterMap Entry.frame? = [] := by
  induction leads with
  | stay register => exact ⟨rfl, rfl⟩
  | @act register last rest action _ ih =>
      cases register with
      | accepting frame => cases shut
      | shut notice =>
          cases action with
          | offer frame => exact ih rfl
          | displace other => exact ih rfl
          | close => exact ih rfl
          | receive => cases notice <;> exact ih rfl

end Leads

end Register

/-! ## What viewers see of it -/

/-- What a register of one slot answers, as its transcript tells it. -/
structure OneSlot (capacity : Nat) (entries : List (Entry α)) : Prop where
  /-- an offer is taken exactly if there is any capacity and nothing shut the mailbox before -/
  taken : ∀ {earlier later : List (Entry α)} {frame : α} {answer : Answer α},
    entries = earlier ++ ⟨.offer frame, answer⟩ :: later →
      ∃ accepted, answer = .taken accepted ∧
        (accepted = true ↔ 1 ≤ capacity ∧ ∀ entry ∈ earlier, entry.action.shuts = false)
  /-- a frame that is delivered is the one that was taken last -/
  latest : ∀ {earlier later : List (Entry α)} {frame : α},
    entries = earlier ++ ⟨.receive, .delivered (some (.frame frame))⟩ :: later →
      (earlier.filterMap Entry.accepted?).getLast? = some frame
  /-- between two deliveries of frames one is taken, so that none is delivered twice -/
  once : ∀ {earlier between later : List (Entry α)} {first second : α},
    entries = earlier ++ ⟨.receive, .delivered (some (.frame first))⟩ :: between ++
        ⟨.receive, .delivered (some (.frame second))⟩ :: later →
      (between.filterMap Entry.accepted?).getLast? = some second
  /-- after it is shut no frame is taken and none is delivered -/
  frameless : ∀ {earlier later : List (Entry α)} {entry : Entry α},
    entries = earlier ++ entry :: later → entry.action.shuts = true →
      later.filterMap Entry.accepted? = [] ∧ later.filterMap Entry.frame? = []
  /-- a notice that is delivered is the one that was left last -/
  noticed : ∀ {earlier later : List (Entry α)} {notice : α},
    entries = earlier ++ ⟨.receive, .delivered (some (.displaced notice))⟩ :: later →
      (earlier.filterMap Entry.left?).getLast? = some notice
  /-- what is received first after a notice was left is that notice -/
  ahead : ∀ {earlier between later : List (Entry α)} {notice : α} {left told : Answer α},
    entries = earlier ++ ⟨.displace notice, left⟩ :: between ++ ⟨.receive, told⟩ :: later →
      (∀ entry ∈ between, entry.action ≠ .receive ∧ entry.left? = none) →
        told = .delivered (some (.displaced notice))

namespace Register

variable {capacity : Nat} {last : Register α} {entries : List (Entry α)}

/-- Where a frame is delivered, it was in the slot. -/
theorem Leads.at_frame {register : Register α} {earlier later : List (Entry α)} {frame : α}
    (leads : Leads capacity register
      (earlier ++ ⟨.receive, .delivered (some (.frame frame))⟩ :: later) last) :
    Leads capacity register earlier (.accepting (some frame)) ∧
      Leads capacity (.accepting none) later last := by
  rcases leads.at_entry with ⟨middle, first, answer, second⟩
  rcases of_delivered answer with ⟨_, ⟨⟩, rfl⟩ | ⟨_, ⟨⟩, _⟩ | ⟨⟨⟩, _⟩
  exact ⟨first, second⟩

/-- Where a notice is delivered, it was in the slot. -/
theorem Leads.at_notice {register : Register α} {earlier later : List (Entry α)} {notice : α}
    (leads : Leads capacity register
      (earlier ++ ⟨.receive, .delivered (some (.displaced notice))⟩ :: later) last) :
    Leads capacity register earlier (.shut (some notice)) ∧
      Leads capacity (.shut none) later last := by
  rcases leads.at_entry with ⟨middle, first, answer, second⟩
  rcases of_delivered answer with ⟨_, ⟨⟩, _⟩ | ⟨_, ⟨⟩, rfl⟩ | ⟨⟨⟩, _⟩
  exact ⟨first, second⟩

theorem Leads.at_offer {register : Register α} {earlier later : List (Entry α)} {frame : α}
    {answer : Answer α}
    (leads : Leads capacity register (earlier ++ ⟨.offer frame, answer⟩ :: later) last) :
    ∃ accepted, answer = .taken accepted ∧
      (accepted = true ↔ 1 ≤ capacity ∧ register.isShut = false ∧
        ∀ entry ∈ earlier, entry.action.shuts = false) := by
  rcases leads.at_entry with ⟨middle, first, told, -⟩
  change answer = (middle.perform capacity (.offer frame)).1 at told
  subst told
  have open_iff : middle.isShut = false ↔
      register.isShut = false ∧ ∀ entry ∈ earlier, entry.action.shuts = false := by
    simp [← Bool.not_eq_true, first.isShut_iff]
  rw [← open_iff]
  cases middle with
  | shut notice => exact ⟨false, rfl, by simp [isShut]⟩
  | accepting old =>
      by_cases none : capacity = 0
      · exact ⟨false, by rw [perform, if_pos none], by simp [none]⟩
      · exact ⟨true, by rw [perform, if_neg none], by simp [isShut, Nat.one_le_iff_ne_zero, none]⟩

/-- What is received first after a notice was left is that notice, whatever was offered. -/
theorem Leads.at_displacement {register : Register α} {earlier between later : List (Entry α)}
    {notice : α} {left told : Answer α}
    (leads : Leads capacity register
      (earlier ++ ⟨.displace notice, left⟩ :: between ++ ⟨.receive, told⟩ :: later) last)
    (undisturbed : ∀ entry ∈ between, entry.action ≠ .receive ∧ entry.left? = none) :
    told = .delivered (some (.displaced notice)) := by
  rw [List.append_assoc, List.cons_append] at leads
  rcases leads.at_entry with ⟨middle, -, -, rest⟩
  rcases rest.at_entry with ⟨noticed, between, answer, -⟩
  have waits : noticed = .shut (some notice) := by
    cases middle <;> exact between.notice_waits undisturbed
  subst waits
  exact answer

/-- A register that begins with an empty slot is a register of one slot in all it answers. -/
theorem Leads.oneSlot (leads : Leads capacity (.accepting none) entries last) :
    OneSlot capacity entries where
  taken split := by
    rw [split] at leads
    rcases leads.at_offer with ⟨accepted, told, exactly⟩
    exact ⟨accepted, told, by rw [exactly]; simp [isShut]⟩
  latest split := by
    rw [split] at leads
    exact leads.at_frame.1.getLast?_accepted rfl |>.resolve_right nofun
  once split := by
    rw [split, List.append_assoc, List.cons_append] at leads
    exact leads.at_frame.2.at_frame.1.getLast?_accepted rfl |>.resolve_right nofun
  frameless split shuts := by
    rw [split] at leads
    rcases leads.at_entry with ⟨middle, -, -, second⟩
    exact second.frameless (by rw [isShut_perform, shuts, Bool.or_true])
  noticed split := by
    rw [split] at leads
    exact leads.at_notice.1.getLast?_left rfl |>.resolve_right nofun
  ahead split undisturbed := by
    rw [split] at leads
    exact leads.at_displacement undisturbed

theorem pending_mailbox_le (register : Register α)
    (room : ∀ frame, register = .accepting (some frame) → 0 < capacity) :
    (register.mailbox capacity).pending ≤ min 1 capacity := by
  cases register with
  | shut notice => exact Nat.zero_le _
  | accepting frame =>
      cases frame with
      | none => exact Nat.zero_le _
      | some frame => exact Nat.le_min.mpr ⟨Nat.le_refl 1, room frame rfl⟩

end Register

/--
A mailbox of any capacity, with which anything is done in any order, answers as a register of
one slot does.  At most one frame is ever pending, and none without capacity.
-/
theorem behaves_as_register (capacity : Nat) (actions : List (Action α)) :
    let mailbox : Mailbox α := empty capacity
    mailbox.transcript actions = Register.transcript capacity (.accepting none) actions ∧
      (mailbox.after actions).pending ≤ min 1 capacity ∧
      OneSlot capacity (mailbox.transcript actions) := by
  intro mailbox
  have same : mailbox.transcript actions = Register.transcript capacity (.accepting none) actions :=
    Register.transcript_eq capacity (.accepting none) actions
  have course : ∃ last, Register.Leads capacity (.accepting none)
      (Register.transcript capacity (.accepting none) actions) last ∧
      last.mailbox capacity = mailbox.after actions :=
    Register.Leads.of_transcript (.accepting none) actions
  rcases course with ⟨last, leads, reached⟩
  refine ⟨same, ?_, same ▸ leads.oneSlot⟩
  have after : mailbox.after actions = last.mailbox capacity := reached.symm
  rw [after]
  exact last.pending_mailbox_le fun frame holds => (leads.positive holds).resolve_right nofun

end FrameChat.Mailbox
