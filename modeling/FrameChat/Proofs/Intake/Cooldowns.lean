import FrameChat.Intake
import FrameChat.Proofs.RecentSet

/-!
# Who has to wait

The intake lists the addresses that it let pass lately, the latest first and each with the
instant at which it passed, and forgets the oldest when there are too many.  What the list
holds is determined by the attempts that passed (`Recalls`): its addresses are a set that
forgets the oldest, and an address stands in it with the instant of its last passage.

An attempt is made to wait exactly if its address passed less than a cooldown ago and fewer
other addresses than the list has room for passed since (`Recalls.waits_iff`).
-/

namespace FrameChat.Intake

/-- An attempt of an address to submit something, and whether it was let pass. -/
structure Attempt where
  address : Net.Address
  instant : Nat
  passed : Bool
  deriving DecidableEq, Repr

/-- The addresses that were let pass, in the order of their attempts. -/
def passages (history : List Attempt) : List Net.Address :=
  (history.filter Attempt.passed).map Attempt.address

/-- The addresses other than a given one that were let pass. -/
def othersPassed (address : Net.Address) (history : List Attempt) : Finset Net.Address :=
  (passages history).toFinset.erase address

/-- No attempt was made before an earlier one. -/
def InTime (history : List Attempt) : Prop :=
  history.Pairwise fun earlier later => earlier.instant ≤ later.instant

/-- An address was let pass at an instant, and not again. -/
def PassedLast (history : List Attempt) (address : Net.Address) (instant : Nat) : Prop :=
  ∃ earlier since, history = earlier ++ ⟨address, instant, true⟩ :: since ∧
    address ∉ passages since

variable {history : List Attempt} {address other : Net.Address} {instant : Nat}

theorem passages_append (earlier later : List Attempt) :
    passages (earlier ++ later) = passages earlier ++ passages later := by
  rw [passages, List.filter_append, List.map_append]
  rfl

theorem passages_cons_of_passed {attempt : Attempt} (passed : attempt.passed = true)
    (later : List Attempt) :
    passages (attempt :: later) = attempt.address :: passages later := by
  rw [passages, List.filter_cons_of_pos passed]
  rfl

theorem passages_snoc_of_refused {attempt : Attempt} (refused : attempt.passed = false) :
    passages (history ++ [attempt]) = passages history := by
  rw [passages_append, passages, passages, List.filter_cons_of_neg (by simp [refused])]
  simp

theorem mem_passages :
    address ∈ passages history ↔
      ∃ attempt ∈ history, attempt.passed = true ∧ attempt.address = address := by
  simp only [passages, List.mem_map, List.mem_filter, and_assoc]

/-! ## The last passage -/

theorem PassedLast.snoc_refused {attempt : Attempt} (last : PassedLast history address instant)
    (refused : attempt.passed = false) : PassedLast (history ++ [attempt]) address instant := by
  rcases last with ⟨earlier, since, rfl, absent⟩
  refine ⟨earlier, since ++ [attempt], by simp, ?_⟩
  rw [passages_snoc_of_refused refused]
  exact absent

theorem PassedLast.snoc_other {attempt : Attempt} (last : PassedLast history address instant)
    (differ : attempt.address ≠ address) : PassedLast (history ++ [attempt]) address instant := by
  rcases last with ⟨earlier, since, rfl, absent⟩
  refine ⟨earlier, since ++ [attempt], by simp, ?_⟩
  rw [passages_append, List.mem_append, not_or]
  refine ⟨absent, fun member => ?_⟩
  rcases mem_passages.mp member with ⟨again, among, -, same⟩
  obtain rfl := List.mem_singleton.mp among
  exact differ same

theorem passedLast_snoc (history : List Attempt) (address : Net.Address) (instant : Nat) :
    PassedLast (history ++ [⟨address, instant, true⟩]) address instant :=
  ⟨history, [], rfl, by simp [passages]⟩

/-- No passage of an address is later than its last one. -/
theorem PassedLast.latest {attempt : Attempt} (last : PassedLast history attempt.address instant)
    (inTime : InTime history) (among : attempt ∈ history) (passed : attempt.passed = true) :
    attempt.instant ≤ instant := by
  rcases last with ⟨earlier, since, rfl, absent⟩
  rcases List.mem_append.mp among with before | after
  · exact (List.pairwise_append.mp inTime).2.2 attempt before _ List.mem_cons_self
  · rcases List.mem_cons.mp after with same | later
    · exact Nat.le_of_eq (congrArg Attempt.instant same)
    · exact absurd (mem_passages.mpr ⟨attempt, later, passed, rfl⟩) absent

/-! ## What the list recalls -/

/-- A list of cooldowns is that of a history of attempts. -/
structure Recalls (capacity : Nat) (history : List Attempt) (cooldowns : Cooldowns) : Prop where
  addresses : cooldowns.map Prod.fst =
    ((RecentSet.empty capacity).refreshAll (passages history)).newestFirst
  instants : ∀ entry ∈ cooldowns, PassedLast history entry.1 entry.2

/-- An address that passes is put in front, and the oldest one may be forgotten. -/
def Cooldowns.note (cooldowns : Cooldowns) (capacity : Nat) (address : Net.Address)
    (instant : Nat) : Cooldowns :=
  ((address, instant) :: cooldowns.filter fun entry => entry.1 ≠ address).take capacity

namespace Recalls

variable {capacity : Nat} {cooldowns : Cooldowns}

theorem nil (capacity : Nat) : Recalls capacity [] [] :=
  ⟨rfl, nofun⟩

theorem nodup (recalls : Recalls capacity history cooldowns) :
    (cooldowns.map Prod.fst).Nodup := by
  rw [recalls.addresses]
  exact RecentSet.nodup_refreshAll capacity (passages history)

theorem refused (recalls : Recalls capacity history cooldowns) {attempt : Attempt}
    (refused : attempt.passed = false) : Recalls capacity (history ++ [attempt]) cooldowns := by
  refine ⟨?_, fun entry member => (recalls.instants entry member).snoc_refused refused⟩
  rw [passages_snoc_of_refused refused]
  exact recalls.addresses

theorem note (recalls : Recalls capacity history cooldowns) (address : Net.Address)
    (instant : Nat) :
    Recalls capacity (history ++ [⟨address, instant, true⟩])
      (cooldowns.note capacity address instant) := by
  constructor
  case addresses =>
    have left : (cooldowns.filter fun entry => entry.1 ≠ address).map Prod.fst =
        (cooldowns.map Prod.fst).erase address := by
      rw [recalls.nodup.erase_eq_filter, List.filter_map]
      congr 1
      refine List.filter_congr fun entry _ => ?_
      exact Bool.eq_iff_iff.mpr (by simp)
    have passed : passages (history ++ [⟨address, instant, true⟩]) =
        passages history ++ [address] := by
      rw [passages_append]
      rfl
    rw [passed, RecentSet.refreshAll_snoc, RecentSet.refresh, RecentSet.capacity_refreshAll,
      ← recalls.addresses, Cooldowns.note, List.map_take, List.map_cons, left]
    rfl
  case instants =>
    intro entry member
    rcases List.mem_cons.mp (List.mem_of_mem_take member) with rfl | other
    · exact passedLast_snoc history address instant
    · have differ : entry.1 ≠ address := by simpa using (List.mem_filter.mp other).2
      exact (recalls.instants entry (List.mem_of_mem_filter other)).snoc_other (Ne.symm differ)

/-- An address stands in the list if it passed and fewer others than there is room for since. -/
theorem mem_iff (recalls : Recalls capacity history cooldowns) :
    address ∈ cooldowns.map Prod.fst ↔
      address ∈ passages history ∧
        (RecentSet.metSince address (passages history)).card < capacity := by
  rw [recalls.addresses, ← RecentSet.contains_refreshAll, RecentSet.contains,
    List.contains_iff_mem]

/--
An address has to wait exactly if it passed less than a cooldown ago, and fewer other
addresses than the list has room for passed since.
-/
theorem waits_iff {limits : Limits} (recalls : Recalls capacity history cooldowns)
    (inTime : InTime history) :
    ((waiting limits instant cooldowns).any fun entry => entry.1 = address) = true ↔
      ∃ earlier first since, history = earlier ++ first :: since ∧ first.passed = true ∧
        first.address = address ∧ instant < first.instant + limits.cooldown ∧
        (othersPassed address since).card < capacity := by
  have entries : ((waiting limits instant cooldowns).any fun entry => entry.1 = address) = true ↔
      ∃ entry ∈ cooldowns, instant < entry.2 + limits.cooldown ∧ entry.1 = address := by
    simp only [waiting, List.any_eq_true, List.mem_filter, decide_eq_true_eq, and_assoc]
  rw [entries]
  constructor
  · rintro ⟨⟨_, passedAt⟩, member, soon, rfl⟩
    rcases recalls.instants _ member with ⟨earlier, since, split, absent⟩
    refine ⟨earlier, _, since, split, rfl, rfl, soon, ?_⟩
    have room := (recalls.mem_iff.mp (List.mem_map_of_mem member)).2
    rw [split, passages_append, passages_cons_of_passed rfl,
      RecentSet.metSince_append_cons _ absent] at room
    exact Nat.lt_of_le_of_lt (Finset.card_le_card (Finset.erase_subset _ _)) room
  · rintro ⟨earlier, first, since, split, passed, rfl, soon, room⟩
    have among : first ∈ history := by simp [split]
    have listed : first.address ∈ cooldowns.map Prod.fst := by
      refine recalls.mem_iff.mpr ⟨mem_passages.mpr ⟨first, among, passed, rfl⟩, ?_⟩
      rw [split, passages_append, passages_cons_of_passed passed]
      exact Nat.lt_of_le_of_lt
        (Finset.card_le_card (RecentSet.metSince_append_cons_subset _ _ _)) room
    rcases List.mem_map.mp listed with ⟨⟨listedAddress, last⟩, member, same⟩
    dsimp only at same
    subst same
    -- The list has the last passage of the address, which is not before the one that is given.
    have notBefore := (recalls.instants _ member).latest inTime among passed
    dsimp only at notBefore
    exact ⟨_, member, by dsimp only; omega, rfl⟩

end Recalls

/-! ## One attempt -/

/-- An intake that let an address pass: who passes has to wait from then on, if anybody has to. -/
def noting (intake : Intake) (address : Net.Address) (instant : Nat) : Intake :=
  if intake.limits.cooldown = 0 then intake
  else
    { intake with
      cooldowns := intake.cooldowns.note intake.limits.cooldownCapacity address instant }

@[simp]
theorem limits_noting (intake : Intake) (address : Net.Address) (instant : Nat) :
    (intake.noting address instant).limits = intake.limits := by
  rw [noting]
  split <;> rfl

@[simp]
theorem guard_noting (intake : Intake) (address : Net.Address) (instant : Nat) :
    (intake.noting address instant).guard = intake.guard := by
  rw [noting]
  split <;> rfl

/-- An address has to wait and nothing changes, or it is let pass. -/
theorem pass_eq (intake : Intake) (address : Net.Address) (instant : Nat) :
    intake.pass address instant =
      if 0 < intake.limits.cooldown ∧
          (waiting intake.limits instant intake.cooldowns).any (fun entry => entry.1 = address) then
        (false, intake)
      else (true, intake.noting address instant) := by
  rw [pass, noting]
  by_cases free : intake.limits.cooldown = 0
  · rw [if_pos free, if_pos free, if_neg (by omega)]
  · rw [if_neg free, if_neg free]
    simp only [Nat.pos_of_ne_zero free, true_and]
    rfl

theorem pass_of_true {intake : Intake} {address : Net.Address} {instant : Nat}
    (passes : (intake.pass address instant).1 = true) :
    (intake.pass address instant).2 = intake.noting address instant := by
  rw [pass_eq] at passes ⊢
  split at passes
  case isTrue => cases passes
  case isFalse free => rw [if_neg free]

/-- Who has to wait changes nothing. -/
theorem pass_of_false {intake : Intake} {address : Net.Address} {instant : Nat}
    (waits : (intake.pass address instant).1 = false) :
    (intake.pass address instant).2 = intake := by
  rw [pass_eq] at waits ⊢
  split at waits
  case isTrue mustWait => rw [if_pos mustWait]
  case isFalse => cases waits

/--
An address is let pass exactly if a passage of it that is less than a cooldown ago was
followed by those of as many other addresses as there is room for.  Its attempt is added to
the history.
-/
theorem Recalls.pass {intake : Intake} (configured : 0 < intake.limits.cooldown)
    (recalls : Recalls intake.limits.cooldownCapacity history intake.cooldowns)
    (inTime : InTime history) (address : Net.Address) (instant : Nat) :
    ((intake.pass address instant).1 = true ↔
      ∀ earlier first since, history = earlier ++ first :: since → first.passed = true →
        first.address = address → instant < first.instant + intake.limits.cooldown →
          intake.limits.cooldownCapacity ≤ (othersPassed address since).card) ∧
    Recalls intake.limits.cooldownCapacity
      (history ++ [⟨address, instant, (intake.pass address instant).1⟩])
      (intake.pass address instant).2.cooldowns := by
  rw [pass_eq]
  split
  case isTrue waits =>
    refine ⟨⟨nofun, fun free => ?_⟩, recalls.refused rfl⟩
    rcases (recalls.waits_iff inTime).mp waits.2 with
      ⟨earlier, first, since, split, passed, same, soon, room⟩
    exact absurd room (Nat.not_lt.mpr (free earlier first since split passed same soon))
  case isFalse free =>
    refine ⟨⟨fun _ earlier first since split passed same soon => ?_, fun _ => rfl⟩, ?_⟩
    · by_contra room
      exact free ⟨configured, (recalls.waits_iff inTime).mpr
        ⟨earlier, first, since, split, passed, same, soon, Nat.lt_of_not_le room⟩⟩
    · rw [noting, if_neg (Nat.pos_iff_ne_zero.mp configured)]
      exact recalls.note address instant

end FrameChat.Intake
