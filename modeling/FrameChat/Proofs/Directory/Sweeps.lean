import FrameChat.Proofs.Directory.Standing

/-!
# What a sweep closes

From its beginning to its end a sweep holds the directory, and looks once at every
entry that stood in it.  Meanwhile people may come to the channels and leave them,
and others may load channels, but nothing is put into the directory.  The sweep
closes and drops an entry exactly if nobody watches when it looks at the entry.

* `step_of_held`: as long as a sweep holds the directory, only its looks change what
  stands there.
* `exists_look`: it has looked at everything when nothing is left, and what stands
  in the directory then is what somebody watched.
-/

namespace FrameChat.House

variable {house : House} {rest : List (String × Nat)}

/-- A sweep is about to look at an entry. -/
def LooksAt (house : House) (pick : Nat) (entry : String × Nat) : Prop :=
  ∃ rest, house.sweeping = some rest ∧ rest[pick]? = some entry

theorem LooksAt.service_step {pick : Nat} {entry : String × Nat} (looks : house.LooksAt pick entry) :
    (house.step (.check pick)).service = (house.look entry).service := by
  rcases looks with ⟨rest, held, found⟩
  simp only [step, held, found]

theorem LooksAt.mem_entries {pick : Nat} {entry : String × Nat} (looks : house.LooksAt pick entry)
    (sound : house.Sound) : entry ∈ house.entries := by
  rcases looks with ⟨rest, held, found⟩
  exact (sound.left rest held).2 (List.mem_of_getElem? found)

theorem not_free_of_held (held : house.sweeping = some rest) : house.free = false := by
  rw [free, held]
  rfl

/-- As long as a sweep holds the directory, only its looks change what stands there. -/
theorem step_of_held (held : house.sweeping = some rest) {move : Move} (going : move ≠ .release) :
    ((house.step move).entries = house.entries ∧ (house.step move).sweeping = some rest) ∨
      ∃ pick entry, move = .check pick ∧ rest[pick]? = some entry ∧
        house.step move = { house.look entry with sweeping := some (rest.eraseIdx pick) } := by
  have taken := not_free_of_held held
  cases move with
  | find name =>
      left
      rw [step, taken]
      exact ⟨rfl, held⟩
  | seek name =>
      left
      rw [step, taken]
      exact ⟨rfl, held⟩
  | load pick history active counter notices =>
      left
      rw [step]
      split <;> exact ⟨rfl, held⟩
  | giveUp pick => exact Or.inl ⟨rfl, held⟩
  | insert pick =>
      left
      rw [step, taken]
      split <;> exact ⟨rfl, held⟩
  | discard pick =>
      left
      rw [step]
      split <;> exact ⟨rfl, held⟩
  | touch index touch =>
      left
      rw [step]
      split <;> exact ⟨rfl, held⟩
  | sweep =>
      left
      rw [step, taken]
      exact ⟨rfl, held⟩
  | check pick =>
      cases found : rest[pick]? with
      | none =>
          have unchanged : house.step (.check pick) = house := by
            simp only [step, held, found]
          rw [unchanged]
          exact Or.inl ⟨rfl, held⟩
      | some entry =>
          right
          refine ⟨pick, entry, rfl, found, ?_⟩
          simp only [step, held, found]
  | release => exact absurd rfl going
  | aside change => exact Or.inl ⟨rfl, held⟩

/-- What a sweep does not look at any more stays where it is until the sweep ends. -/
theorem mem_entries_of_looked (sound : house.Sound) (held : house.sweeping = some rest)
    {during : List Move} (going : .release ∉ during) {entry : String × Nat}
    (looked : entry ∉ rest) :
    entry ∈ (house.run during).entries ↔ entry ∈ house.entries := by
  induction during generalizing house rest with
  | nil => exact Iff.rfl
  | cons move later ih =>
      have others : .release ∉ later := fun member => going (List.mem_cons_of_mem move member)
      have here : move ≠ .release := fun same => going (same ▸ List.mem_cons_self)
      rw [run, List.foldl_cons]
      rcases step_of_held held here with ⟨same, stillHeld⟩ | ⟨pick, other, -, found, became⟩
      · exact (ih (sound.step move) stillHeld others looked).trans (by rw [same])
      · have stillHeld : (house.step move).sweeping = some (rest.eraseIdx pick) := by rw [became]
        have stillLooked : entry ∉ rest.eraseIdx pick :=
          fun member => looked (List.mem_of_mem_eraseIdx member)
        refine (ih (sound.step move) stillHeld others stillLooked).trans ?_
        have differ : entry ≠ other := by
          rintro rfl
          exact looked (List.mem_of_getElem? found)
        rw [became]
        show entry ∈ (house.look other).entries ↔ _
        cases idle : (house.service.channel other.2).roster.isEmpty with
        | false => rw [look_of_watched idle]
        | true => simp [entries_look_of_idle idle, differ]

/-- A look closes and drops its entry if nobody watches. -/
theorem mem_entries_look (entry : String × Nat) (member : entry ∈ house.entries) :
    entry ∈ (house.look entry).entries ↔
      (house.service.channel entry.2).roster.isEmpty = false := by
  cases idle : (house.service.channel entry.2).roster.isEmpty with
  | false => simpa [look_of_watched idle] using member
  | true => simp [entries_look_of_idle idle]

/--
When nothing is left for a sweep to look at, it has looked at everything that stood
in the directory, and exactly what somebody watched then still stands there.
-/
theorem exists_look (sound : house.Sound) (held : house.sweeping = some rest)
    {during : List Move} (going : .release ∉ during)
    (finished : (house.run during).sweeping = some []) {entry : String × Nat}
    (waiting : entry ∈ rest) :
    ∃ earlier pick later, during = earlier ++ .check pick :: later ∧
      (house.run earlier).LooksAt pick entry ∧
      (entry ∈ (house.run during).entries ↔
        ((house.run earlier).service.channel entry.2).roster.isEmpty = false) := by
  induction during generalizing house rest with
  | nil =>
      cases held.symm.trans finished
      cases waiting
  | cons move later ih =>
      have others : .release ∉ later := fun member => going (List.mem_cons_of_mem move member)
      have here : move ≠ .release := fun same => going (same ▸ List.mem_cons_self)
      have continuing {left : List (String × Nat)} (stillHeld : (house.step move).sweeping = some left)
          (stillWaiting : entry ∈ left) :
          ∃ earlier pick after, move :: later = earlier ++ .check pick :: after ∧
            (house.run earlier).LooksAt pick entry ∧
            (entry ∈ (house.run (move :: later)).entries ↔
              ((house.run earlier).service.channel entry.2).roster.isEmpty = false) := by
        rcases ih (sound.step move) stillHeld others finished stillWaiting with
          ⟨earlier, pick, after, rfl, looks, stays⟩
        exact ⟨move :: earlier, pick, after, rfl, looks, stays⟩
      rcases step_of_held held here with ⟨-, stillHeld⟩ | ⟨pick, other, rfl, found, became⟩
      · exact continuing stillHeld waiting
      · have stillHeld : (house.step (.check pick)).sweeping = some (rest.eraseIdx pick) := by
          rw [became]
        rcases List.mem_cons.mp ((perm_of_getElem? found).mem_iff.mp waiting) with rfl | left
        · rcases sound.left rest held with ⟨nodup, subset⟩
          have looked := (List.nodup_cons.mp ((perm_of_getElem? found).nodup_iff.mp nodup)).1
          refine ⟨[], pick, later, rfl, ⟨rest, held, found⟩, ?_⟩
          rw [run, List.foldl_cons]
          refine (mem_entries_of_looked (sound.step _) stillHeld others looked).trans ?_
          rw [became]
          exact mem_entries_look entry (subset waiting)
        · exact continuing stillHeld left

end FrameChat.House
