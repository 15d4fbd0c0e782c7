import FrameChat.Archive
import FrameChat.Proofs.Archive.Recency
import Mathlib.Data.List.Induction

/-!
# Archives after any appends

What appends leave in an archive is determined by the appends alone: the messages
that are held of each channel and the time when it was last active.  An archive in
memory and one of byte tables differ only in the order in which they list the last
activities.

* `Backend.exists_depositAll`: any appends to a blank archive succeed, and leave
  in it what they say.
* `Backend.Reflects.exists_listing`: its list of last activities and their number
  are read off one listing.
-/

namespace FrameChat.Archive

/-- What is given to an archive in one append. -/
structure Deposit where
  channel : String
  message : Message
  active : Seconds
  keep : Nat

/-- The messages that are held of each channel after some appends. -/
def contentsAfter (deposits : List Deposit) : Contents :=
  deposits.foldl
    (fun contents deposit => contents.add deposit.channel deposit.message deposit.keep)
    Contents.none

/-- When each channel was last active after some appends. -/
def activesAfter (deposits : List Deposit) : Actives :=
  deposits.foldl (fun actives deposit => actives.note deposit.channel deposit.active)
    fun _ => none

theorem sound_contentsAfter {deposits : List Deposit}
    (fits : ∀ deposit ∈ deposits, deposit.message.Fits) : (contentsAfter deposits).Sound := by
  induction deposits using List.reverseRecOn with
  | nil => exact Contents.Sound.none
  | append_singleton earlier deposit ih =>
      rw [contentsAfter, List.foldl_append]
      exact (ih fun other member => fits other (by simp [member])).add deposit.channel
        (fits deposit (by simp)) deposit.keep

/-- Last activities are those of deposits. -/
theorem exists_deposit_of_activesAfter {deposits : List Deposit} {channel : String}
    {time : Seconds} (known : activesAfter deposits channel = some time) :
    ∃ deposit ∈ deposits, deposit.active = time := by
  induction deposits using List.reverseRecOn with
  | nil => cases known
  | append_singleton earlier deposit ih =>
      rw [activesAfter, List.foldl_append, List.foldl_cons, List.foldl_nil] at known
      rcases Actives.note_eq_some_iff.mp known with ⟨-, rfl⟩ | ⟨-, before⟩
      · exact ⟨deposit, by simp, rfl⟩
      · rcases ih before with ⟨found, member, active⟩
        exact ⟨found, by simp [member], active⟩

/-- The last of a list of activities in the form of an answer, latest first. -/
def latest (limit : Nat) (index : List Activity) : List (String × Seconds) :=
  (index.reverse.take limit).map fun activity => (activity.channel, activity.time)

namespace Backend

/-- Append one deposit after the other. -/
def depositAll (backend : Backend) (deposits : List Deposit) : Except Fault Backend :=
  deposits.foldlM
    (fun backend deposit =>
      backend.append deposit.channel deposit.message deposit.active deposit.keep)
    backend

/-- The order in which an archive has the last activities in its index. -/
def order : Backend → Activity → Activity → Ordering
  | .memory _ => compareOn id
  | .tables _ => compareOn Activity.key

instance (backend : Backend) : Std.TransCmp backend.order := by
  cases backend with
  | memory held => exact inferInstanceAs (Std.TransCmp (compareOn id))
  | tables held => exact inferInstanceAs (Std.TransCmp (compareOn Activity.key))

/-- An archive remembers given last activities. -/
def Remembers : Backend → Actives → Prop
  | .memory held, actives => held.Remembers actives
  | .tables held, actives => held.Remembers actives

/-- An archive holds given messages and remembers given last activities. -/
structure Reflects (backend : Backend) (contents : Contents) (actives : Actives) : Prop where
  holds : backend.Holds contents
  remembers : backend.Remembers actives

theorem Blank.reflects {backend : Backend} (blank : backend.Blank) :
    backend.Reflects Contents.none fun _ => none := by
  refine ⟨blank.holds, ?_⟩
  cases blank with
  | memory => exact Memory.remembers_empty
  | tables => exact Tables.remembers_empty

section

variable {backend : Backend} {contents : Contents} {actives : Actives}

theorem Reflects.append (reflects : backend.Reflects contents actives) (channel : String)
    (message : Message) (active : Seconds) (keep : Nat) :
    ∃ next, backend.append channel message active keep = .ok next ∧
      next.order = backend.order ∧
      next.Reflects (contents.add channel message keep) (actives.note channel active) := by
  cases backend with
  | memory held =>
      exact ⟨.memory (held.append channel message active keep), rfl, rfl,
        Memory.Holds.append reflects.holds channel message active keep,
        Memory.Remembers.append reflects.remembers channel message active keep⟩
  | tables held =>
      rcases Tables.Holds.append reflects.holds channel message active keep with
        ⟨next, appended, holds⟩
      exact ⟨.tables next, by rw [Backend.append, appended]; rfl, rfl, holds,
        Tables.Remembers.append reflects.remembers appended⟩

/-- Any appends to a blank archive succeed, and leave in it what they say. -/
theorem exists_depositAll (blank : backend.Blank) (deposits : List Deposit) :
    ∃ final, backend.depositAll deposits = .ok final ∧ final.order = backend.order ∧
      final.Reflects (contentsAfter deposits) (activesAfter deposits) := by
  induction deposits using List.reverseRecOn with
  | nil => exact ⟨backend, rfl, rfl, blank.reflects⟩
  | append_singleton earlier deposit ih =>
      rcases ih with ⟨middle, deposited, sameOrder, reflects⟩
      rcases reflects.append deposit.channel deposit.message deposit.active deposit.keep with
        ⟨final, appended, keptOrder, finalReflects⟩
      refine ⟨final, ?_, keptOrder.trans sameOrder, ?_⟩
      · rw [depositAll] at deposited ⊢
        rw [List.foldlM_append, deposited]
        simp only [bind, Except.bind, List.foldlM_cons, appended]
        rfl
      · rw [contentsAfter, activesAfter, List.foldl_append, List.foldl_append]
        exact finalReflects

theorem Reflects.lastActive (reflects : backend.Reflects contents actives) (channel : String) :
    backend.lastActive channel = .ok (actives channel) := by
  cases backend with
  | memory held => exact congrArg Except.ok (Memory.Remembers.known reflects.remembers channel)
  | tables held => exact Tables.Remembers.lastActive reflects.remembers channel

/-- The last activities of an archive and their number are read off one listing. -/
theorem Reflects.exists_listing (reflects : backend.Reflects contents actives) :
    ∃ index, Listing backend.order actives index ∧
      (∀ limit, backend.recent limit = .ok (latest limit index)) ∧
      backend.channelCount = .ok index.length := by
  cases backend with
  | memory held =>
      have remembers : held.Remembers actives := reflects.remembers
      rcases remembers.index.exists_listing Function.injective_id with ⟨index, entries, listing⟩
      refine ⟨index, listing, fun limit => ?_, congrArg Except.ok ?_⟩
      · rw [recent, Memory.recent, entries, ← List.map_reverse, ← List.map_take, List.map_map]
        rfl
      · have active (channel : String) : channel ∈ held.active.map Prod.fst ↔
            ∃ other time, channel = id other ∧ actives other = some time := by
          simp [mem_map_fst_iff, ← remembers.known, Memory.lastActive]
        rw [Memory.channelCount, ← listing.length_eq Function.injective_id remembers.distinct active,
          List.length_map]
  | tables held =>
      have remembers : held.Remembers actives := reflects.remembers
      rcases remembers.index.exists_listing key_injective with ⟨index, entries, listing⟩
      refine ⟨index, listing, fun limit => ?_, congrArg Except.ok ?_⟩
      · rw [recent, Tables.recent, entries, ← List.map_reverse, ← List.map_take, List.mapM_map]
        exact mapM_eq_ok fun activity _ => Tables.decodeRecencyKey_key activity
      · have active (name : Bytes) :
            name ∈ (held.table Tables.activityTable).entries.map Prod.fst ↔
              ∃ channel time, name = Bytes.ofText channel ∧ actives channel = some time := by
          rw [List.mem_map]
          constructor
          · rintro ⟨entry, present, rfl⟩
            rcases (remembers.known entry).mp present with ⟨channel, time, rfl, known⟩
            exact ⟨channel, time, rfl, known⟩
          · rintro ⟨channel, time, rfl, known⟩
            exact ⟨_, (remembers.known _).mpr ⟨channel, time, rfl, known⟩, rfl⟩
        rw [Tables.channelCount, SortedTable.size, ← listing.length_eq Bytes.ofText_injective
          remembers.sorted.nodup_keys active, List.length_map]

end

end Backend

end FrameChat.Archive
