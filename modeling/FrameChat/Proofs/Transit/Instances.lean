import FrameChat.Proofs.Transit.Steps

/-!
# Instances of one name

While a channel is written to, opened and swept, in whatever order, all its instances
have one name and one limit, and each one that is open stands in the directory
(`Sound.step`).  So at most one of them is open (`Sound.index_eq`), and none if nothing
is live under the name (`Sound.closed_of_none`).
-/

namespace FrameChat.Transit

variable {name : String}

/-- All instances have the name in question, and those that are open stand in the directory. -/
structure Sound (transit : Transit name) : Prop where
  own : ∀ ledger ∈ transit.chronicle.ledgers,
    ledger.name = name ∧ ledger.limit = transit.chronicle.limit
  keys : (transit.chronicle.entries.map Prod.fst).Nodup
  live : ∀ index ledger, transit.chronicle.ledgers[index]? = some ledger →
    ledger.closed = false → (name, index) ∈ transit.chronicle.entries
  unwritten : ∀ deposit ∈ transit.unwritten,
    deposit.channel = name ∧ deposit.keep = transit.chronicle.limit

variable {transit after : Transit name}

/-- At most one instance is open. -/
theorem Sound.index_eq (sound : transit.Sound) {first second : Nat}
    {ledger other : Channel.Ledger} (found : transit.chronicle.ledgers[first]? = some ledger)
    (isOpen : ledger.closed = false)
    (otherFound : transit.chronicle.ledgers[second]? = some other)
    (otherOpen : other.closed = false) : first = second := by
  have here := lookup_of_mem sound.keys (sound.live first ledger found isOpen)
  have there := lookup_of_mem sound.keys (sound.live second other otherFound otherOpen)
  exact Option.some.inj (here.symm.trans there)

/-- If nothing is live under the name, no instance is open. -/
theorem Sound.closed_of_none (sound : transit.Sound) (absent : transit.chronicle.find? name = none)
    {index : Nat} {ledger : Channel.Ledger}
    (found : transit.chronicle.ledgers[index]? = some ledger) : ledger.closed = true := by
  by_contra isOpen
  rw [Bool.not_eq_true] at isOpen
  have listed := lookup_of_mem sound.keys (sound.live index ledger found isOpen)
  simp [Chronicle.find?, listed, Chronicle.isClosed, found, isOpen] at absent

theorem find?_of_push {chronicle : Chronicle} {ledger : Channel.Ledger}
    (absent : (chronicle.push ledger).find? name = none) : chronicle.find? name = none := by
  rw [Chronicle.find?, Option.filter_eq_none_iff] at absent ⊢
  intro index listed isOpen
  refine absent index listed ?_
  cases found : chronicle.ledgers[index]? with
  | none => simp [Chronicle.isClosed, found] at isOpen
  | some old =>
      have pushed := Chronicle.getElem?_push_of_some found ledger
      simpa [Chronicle.isClosed, found, pushed] using isOpen

theorem Sound.still (sound : transit.Sound) (same : after.chronicle = transit.chronicle)
    (fewer : after.unwritten.Sublist transit.unwritten) : after.Sound where
  own := same ▸ sound.own
  keys := same ▸ sound.keys
  live := same ▸ sound.live
  unwritten deposit member := same ▸ sound.unwritten deposit (fewer.subset member)

theorem Sound.log (sound : transit.Sound) {index : Nat} {ledger : Channel.Ledger}
    {numbered : Message} (found : transit.chronicle.ledgers[index]? = some ledger)
    (isOpen : ledger.closed = false)
    (became : after.chronicle = transit.chronicle.set index (ledger.add numbered))
    (grown : after.unwritten.Sublist
      (transit.unwritten ++ [⟨ledger.name, numbered, numbered.time, ledger.limit⟩])) :
    after.Sound := by
  have own := sound.own ledger (List.mem_of_getElem? found)
  constructor
  case own =>
    rw [became]
    intro other member
    rcases List.mem_or_eq_of_mem_set member with before | rfl
    · exact sound.own other before
    · exact own
  case keys => exact became ▸ sound.keys
  case live =>
    rw [became]
    intro place other present stillOpen
    rcases Chronicle.getElem?_of_set present with ⟨rfl, rfl⟩ | before
    · exact sound.live _ ledger found isOpen
    · exact sound.live place other before stillOpen
  case unwritten =>
    rw [became]
    intro deposit member
    rcases List.mem_append.mp (grown.subset member) with before | last
    · exact sound.unwritten deposit before
    · exact List.mem_singleton.mp last ▸ own

theorem Sound.write (sound : transit.Sound) {backend : Archive.Backend}
    (became : after.chronicle = { transit.chronicle with backend })
    (fewer : after.unwritten.Sublist transit.unwritten) : after.Sound where
  own := became ▸ sound.own
  keys := became ▸ sound.keys
  live := became ▸ sound.live
  unwritten deposit member := became ▸ sound.unwritten deposit (fewer.subset member)

/-- All instances have the name in question after one was made of a history. -/
theorem Sound.own_push (sound : transit.Sound) (history : List Message) (closed : Bool) :
    ∀ ledger ∈ (transit.chronicle.push ((Channel.Ledger.ofHistory name transit.chronicle.limit
      history).closeIf closed)).ledgers,
      ledger.name = name ∧ ledger.limit = transit.chronicle.limit := by
  intro ledger member
  rcases List.mem_append.mp member with before | last
  · exact sound.own ledger before
  · rw [List.mem_singleton.mp last]
    exact ⟨rfl, rfl⟩

theorem Sound.install (sound : transit.Sound) {history : List Message}
    (absent : transit.chronicle.find? name = none)
    (became : after.chronicle =
      { transit.chronicle.push (.ofHistory name transit.chronicle.limit history) with
        entries := (name, transit.chronicle.ledgers.length) ::
          transit.chronicle.entries.filter fun entry => entry.1 ≠ name })
    (same : after.unwritten = transit.unwritten) : after.Sound := by
  constructor
  case own => exact became ▸ sound.own_push history false
  case keys =>
    rw [became]
    refine List.nodup_cons.mpr ⟨fun member => ?_, sound.keys.sublist (List.filter_sublist.map _)⟩
    rcases mem_map_fst_iff.mp member with ⟨index, listed⟩
    rw [lookup_filter_self] at listed
    cases listed
  case live =>
    rw [became]
    intro place other present isOpen
    rcases Chronicle.getElem?_push present with before | ⟨rfl, -⟩
    · rw [sound.closed_of_none absent before] at isOpen
      cases isOpen
    · exact List.mem_cons_self
  case unwritten =>
    rw [became, same]
    exact sound.unwritten

theorem Sound.surplus (sound : transit.Sound) {history : List Message}
    (became : after.chronicle = transit.chronicle.push
      ((Channel.Ledger.ofHistory name transit.chronicle.limit history).closeIf true))
    (same : after.unwritten = transit.unwritten) : after.Sound := by
  constructor
  case own => exact became ▸ sound.own_push history true
  case keys => exact became ▸ sound.keys
  case live =>
    rw [became]
    intro place other present isOpen
    rcases Chronicle.getElem?_push present with before | ⟨-, rfl⟩
    · exact sound.live place other before isOpen
    · cases isOpen
  case unwritten =>
    rw [became, same]
    exact sound.unwritten

theorem Sound.sweep (sound : transit.Sound) {closing : Nat → Bool}
    (swept : transit.chronicle.Swept after.chronicle closing)
    (same : after.unwritten = transit.unwritten) : after.Sound := by
  constructor
  case own =>
    rw [swept.limit]
    intro ledger member
    rcases List.mem_iff_getElem?.mp member with ⟨index, present⟩
    rcases swept.exists_before present with ⟨before, found, rfl⟩
    exact sound.own before (List.mem_of_getElem? found)
  case keys => exact sound.keys.sublist (swept.fewer.map Prod.fst)
  case live =>
    intro index ledger present isOpen
    rcases swept.of_open present isOpen with ⟨found, listed⟩
    exact listed name (sound.live index ledger found isOpen)
  case unwritten =>
    rw [swept.limit, same]
    exact sound.unwritten

theorem Sound.step (sound : transit.Sound) (move : Move) : (transit.step move).Sound := by
  cases transit.makes_step move with
  | still same fewer _ => exact sound.still same fewer
  | logged found isOpen _ became grown _ => exact sound.log found isOpen became grown
  | written _ _ became rest _ => exact sound.write became (rest ▸ List.eraseIdx_sublist _ _)
  | installed _ made absent became same _ =>
      exact sound.install (find?_of_push absent) (made ▸ became) same
  | surplus became same _ => exact sound.surplus became same
  | swept swept same _ => exact sound.sweep swept same

end FrameChat.Transit
