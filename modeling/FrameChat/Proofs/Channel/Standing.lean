import FrameChat.Proofs.Archive.Largest
import FrameChat.Proofs.Channel.Ledger

/-!
# Messages that stand in a log

Of a log that is bounded the oldest messages are left out, and so are those of a bucket
in an archive.  A message `Stands` in a log if it is there, or if the log is full of
messages with larger numbers: it is then not missing, but was left out for newer ones.
To add a message with a larger number, to place one with any other number, and to keep
only the newest leaves standing what stands.

* `Stands.snoc`, `Stands.place`, `Stands.newest`: what stands goes on standing.
* `Ledger.Shows.add`, `Ledger.shows_ofHistory`: what stands in the log of a ledger.
-/

namespace FrameChat

namespace Channel

/-- A message is in a log, or the log is full of newer ones. -/
def Stands (limit : Nat) (log : List Message) (message : Message) : Prop :=
  message ∈ log ∨ limit ≤ log.length ∧ ∀ other ∈ log, message.id < other.id

instance (limit : Nat) (log : List Message) (message : Message) :
    Decidable (Stands limit log message) :=
  inferInstanceAs (Decidable (_ ∨ _))

theorem stands_newest {log : List Message} (increasing : Message.Increasing log) (limit : Nat)
    {message : Message} (member : message ∈ log) : Stands limit (newest limit log) message := by
  rcases mem_newest_or_lt increasing limit member with kept | ⟨long, newer⟩
  · exact Or.inl kept
  · right
    rw [length_newest]
    exact ⟨by omega, newer⟩

/-- What is left out of a log is older than what is kept. -/
theorem Stands.newest {limit : Nat} {log : List Message} (increasing : Message.Increasing log)
    {message : Message} (stands : Stands limit log message) :
    Stands limit (newest limit log) message := by
  rcases stands with member | ⟨full, newer⟩
  · exact stands_newest increasing limit member
  · right
    rw [length_newest]
    exact ⟨by omega, fun other member => newer other (Archive.mem_of_mem_newest member)⟩

/-- The last number of a log is not below that of a message that stands in it. -/
theorem Stands.le {limit : Nat} (positive : 0 < limit) {log : List Message} {message : Message}
    (stands : Stands limit log message) {last : UInt64}
    (bounded : ∀ other ∈ log, other.id ≤ last) : message.id ≤ last := by
  rcases stands with member | ⟨full, newer⟩
  · exact bounded message member
  · rcases List.exists_mem_of_length_pos (Nat.lt_of_lt_of_le positive full) with ⟨other, member⟩
    exact UInt64.le_trans (UInt64.le_of_lt (newer other member)) (bounded other member)

theorem Stands.snoc {limit : Nat} {log : List Message} {message added : Message}
    (stands : Stands limit log message) (newer : message.id < added.id) :
    Stands limit (log ++ [added]) message := by
  rcases stands with member | ⟨full, above⟩
  · exact Or.inl (List.mem_append_left _ member)
  · right
    refine ⟨Nat.le_trans full (by simp), fun other member => ?_⟩
    rcases List.mem_append.mp member with before | last
    · exact above other before
    · exact List.mem_singleton.mp last ▸ newer

/-- A message stays where another one is placed, unless it has the same number. -/
theorem Stands.place {limit : Nat} {log : List Message} (increasing : Message.Increasing log)
    {message placed : Message} (stands : Stands limit log message)
    (differ : message ∈ log → message.id ≠ placed.id) :
    Stands limit (Channel.newest limit (Archive.place placed log)) message := by
  have placedIncreasing := Archive.increasing_place increasing placed
  rcases stands with member | ⟨full, newer⟩
  · apply stands_newest placedIncreasing
    exact (Archive.mem_place_iff increasing).mpr (Or.inr ⟨member, differ member⟩)
  · by_cases above : message.id < placed.id
    · refine Stands.newest placedIncreasing (Or.inr ⟨?_, fun other member => ?_⟩)
      · exact Nat.le_trans full (Archive.length_le_length_place placed log)
      · rcases Archive.mem_place member with rfl | before
        · exact above
        · exact newer other before
    · -- What is placed is older than a full log, and is left out again.
      have below : ∀ other ∈ log, placed.id < other.id := fun other member =>
        UInt64.lt_of_le_of_lt (UInt64.not_lt.mp above) (newer other member)
      have first : Archive.place placed log = Archive.place placed [] ++ log :=
        Archive.place_append_right below []
      rw [first, newest_append_of_le full]
      exact Stands.newest increasing (Or.inr ⟨full, newer⟩)

/-- A ledger is in order, and given messages stand in its log. -/
structure Ledger.Shows (ledger : Ledger) (messages : List Message) : Prop where
  increasing : Message.Increasing ledger.log
  bounded : ∀ message ∈ ledger.log, message.id ≤ ledger.lastId
  stands : ∀ message ∈ messages, Stands ledger.limit ledger.log message

theorem Ledger.Shows.mono {ledger : Ledger} {messages fewer : List Message}
    (shows : ledger.Shows messages) (subset : fewer ⊆ messages) : ledger.Shows fewer :=
  { shows with stands := fun message member => shows.stands message (subset member) }

theorem Ledger.Shows.add {ledger : Ledger} {messages : List Message}
    (shows : ledger.Shows messages) (positive : 0 < ledger.limit) {numbered : Message}
    (above : ledger.lastId < numbered.id) :
    (ledger.add numbered).Shows (numbered :: messages) := by
  have newer : ∀ message ∈ ledger.log, message.id < numbered.id := fun message member =>
    UInt64.lt_of_le_of_lt (shows.bounded message member) above
  have increasing := shows.increasing.snoc newer
  constructor
  case increasing => exact increasing.newest ledger.limit
  case bounded =>
    intro message member
    rcases List.mem_append.mp (Archive.mem_of_mem_newest member) with before | last
    · exact UInt64.le_of_lt (newer message before)
    · exact List.mem_singleton.mp last ▸ UInt64.le_refl _
  case stands =>
    intro message member
    rcases List.mem_cons.mp member with rfl | before
    · exact stands_newest increasing ledger.limit (by simp)
    · have stood := shows.stands message before
      have below : message.id < numbered.id :=
        UInt64.lt_of_le_of_lt (stood.le positive shows.bounded) above
      exact Stands.newest increasing (stood.snoc below)

theorem Ledger.shows_ofHistory (name : String) {limit : Nat} {history messages : List Message}
    (increasing : Message.Increasing history)
    (stands : ∀ message ∈ messages, Stands limit history message) :
    (ofHistory name limit history).Shows messages where
  increasing := increasing.newest limit
  bounded _ member := le_getLast_id (increasing.newest limit) member
  stands message member := Stands.newest increasing (stands message member)

end Channel

end FrameChat
