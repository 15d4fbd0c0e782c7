import FrameChat.Proofs.Archive.Index
import FrameChat.Proofs.Channel.Touches

/-!
# Messages that are written late

A channel gives a message its number and its time in one step, and has it written to
the archive in another.  Of two messages the earlier may so be written after the
later one.  Which messages are stored does not depend on that, but the last activity
does: an archive notes the time of what was written last.  If this is the earlier
message, the activity goes back to its time, while the channel itself stays at that
of the later one.

* `Backend.exists_lastAt`: after an append, the channel was last active at its time.
* `activity_of_last_write`: what is known after the one order and after the other.
* `activity_moved_back`: a channel whose activity moves back.
-/

namespace FrameChat

namespace Channel

/-- What is written to the archive of a message that a channel has numbered. -/
def deposit (channel : Channel) (message : Message) : Archive.Deposit :=
  ⟨channel.name, message, message.time, channel.settings.historyLimit⟩

/-- Several steps on a channel, none of which closes it. -/
def touchAll (channel : Channel) (touches : List Touch) : Channel :=
  touches.foldl touch channel

theorem name_touchAll (channel : Channel) (touches : List Touch) :
    (channel.touchAll touches).name = channel.name := by
  induction touches generalizing channel with
  | nil => rfl
  | cons touch rest ih => exact (ih (channel.touch touch)).trans (name_touch channel touch)

theorem closed_touchAll (channel : Channel) (touches : List Touch) :
    (channel.touchAll touches).closed = channel.closed := by
  induction touches generalizing channel with
  | nil => rfl
  | cons touch rest ih => exact (ih (channel.touch touch)).trans (closed_touch channel touch)

/-- An open channel adds a message, is active at its time, and stays open under its name. -/
theorem exists_record {channel : Channel} (isOpen : channel.closed = false) (now : Seconds)
    (message : Message) :
    ∃ numbered after, channel.record now message = (some numbered, after) ∧
      numbered.time = now ∧ after.active = now ∧ after.name = channel.name ∧
      after.closed = false := by
  rcases record_of_open isOpen now message with ⟨numbered, recorded, timed, -, added⟩
  refine ⟨numbered, _, Prod.ext recorded rfl, timed, ?_, congrArg Ledger.name added,
    (congrArg Ledger.closed added).trans isOpen⟩
  rw [record, if_neg (by simp [isOpen])]

end Channel

namespace Archive

namespace Backend

/-- A channel was last active at a time, as an archive knows and as it lists. -/
structure LastAt (backend : Backend) (channel : String) (time : Seconds) : Prop where
  known : backend.lastActive channel = .ok (some time)
  listed : ∃ limit answer, backend.recent limit = .ok answer ∧ (channel, time) ∈ answer
  only : ∀ limit answer, backend.recent limit = .ok answer →
    ∀ entry ∈ answer, entry.1 = channel → entry.2 = time

theorem LastAt.unique {backend : Backend} {channel : String} {time other : Seconds}
    (lastAt : backend.LastAt channel time) (otherAt : backend.LastAt channel other) :
    time = other :=
  Option.some.inj (Except.ok.inj (lastAt.known.symm.trans otherAt.known))

theorem Reflects.lastAt {backend : Backend} {contents : Contents} {actives : Actives}
    (reflects : backend.Reflects contents actives) {channel : String} {time : Seconds}
    (active : actives channel = some time) : backend.LastAt channel time := by
  rcases reflects.exists_listing with ⟨index, listing, recent, -⟩
  constructor
  case known => rw [reflects.lastActive, active]
  case listed =>
    refine ⟨index.length, _, recent _, List.mem_map.mpr ⟨⟨time, channel⟩, ?_, rfl⟩⟩
    rw [← List.length_reverse, List.take_length, List.mem_reverse]
    exact (listing.exact _).mpr active
  case only =>
    intro limit answer answered entry member here
    rw [recent, Except.ok.injEq] at answered
    subst answered
    rcases List.mem_map.mp member with ⟨activity, taken, rfl⟩
    have noted := (listing.exact activity).mp (List.mem_reverse.mp (List.mem_of_mem_take taken))
    rw [show activity.channel = channel from here, active] at noted
    exact (Option.some.inj noted).symm

/-- After an append, its channel was last active at the time that came with it. -/
theorem exists_lastAt {backend : Backend} (blank : backend.Blank) (earlier : List Deposit)
    (deposit : Deposit) :
    ∃ final, backend.depositAll (earlier ++ [deposit]) = .ok final ∧
      final.LastAt deposit.channel deposit.active := by
  rcases exists_depositAll blank (earlier ++ [deposit]) with ⟨final, deposited, -, reflects⟩
  refine ⟨final, deposited, reflects.lastAt ?_⟩
  rw [activesAfter_eq, lastInto_snoc, if_pos rfl, Option.map_some]

end Backend

/--
An open channel adds one message after another, with any steps in between, and is then
active at the time of the second.  If they are written in this order, the archive knows
and lists the channel with the same time.  If the first is written after the second, it
knows and lists it with the time of the first.
-/
theorem activity_of_last_write
    {backend : Backend}
    (blank : backend.Blank)
    (earlier : List Deposit)
    {channel : Channel}
    (isOpen : channel.closed = false)
    (firstTime secondTime : Seconds)
    (first second : Message)
    (between : List Channel.Touch) :
    ∃ firstNumbered middle secondNumbered final inOrder reversed,
      channel.record firstTime first = (some firstNumbered, middle) ∧
      (middle.touchAll between).record secondTime second = (some secondNumbered, final) ∧
      final.active = secondTime ∧
      backend.depositAll
        (earlier ++ [middle.deposit firstNumbered, final.deposit secondNumbered]) = .ok inOrder ∧
      inOrder.LastAt channel.name secondTime ∧
      backend.depositAll
        (earlier ++ [final.deposit secondNumbered, middle.deposit firstNumbered]) = .ok reversed ∧
      reversed.LastAt channel.name firstTime := by
  rcases Channel.exists_record isOpen firstTime first with
    ⟨firstNumbered, middle, firstAdded, rfl, -, middleName, middleOpen⟩
  have stillOpen : (middle.touchAll between).closed = false := by
    rw [Channel.closed_touchAll, middleOpen]
  rcases Channel.exists_record stillOpen secondTime second with
    ⟨secondNumbered, final, secondAdded, rfl, active, finalName, -⟩
  rw [Channel.name_touchAll, middleName] at finalName
  rcases Backend.exists_lastAt blank (earlier ++ [middle.deposit firstNumbered])
    (final.deposit secondNumbered) with ⟨inOrder, written, inOrderAt⟩
  rcases Backend.exists_lastAt blank (earlier ++ [final.deposit secondNumbered])
    (middle.deposit firstNumbered) with ⟨reversed, writtenLate, reversedAt⟩
  rw [List.append_assoc] at written writtenLate
  exact ⟨firstNumbered, middle, secondNumbered, final, inOrder, reversed, firstAdded, secondAdded,
    active, written, finalName ▸ inOrderAt, writtenLate, middleName ▸ reversedAt⟩

/-- A channel into which nothing was written yet. -/
def quietLobby : Channel :=
  .ofHistory "lobby" .standard [] 0 0 ⟨Frame.empty .narrow, Frame.empty .wide⟩ 0

theorem activity_of_last_write_in_lobby :
    Backend.Blank (.memory Memory.empty) ∧ quietLobby.closed = false ∧
      ∃ firstNumbered middle secondNumbered final inOrder reversed,
        quietLobby.record 10 (.written "ada" "a") = (some firstNumbered, middle) ∧
        (middle.touchAll []).record 20 (.written "bo" "b") = (some secondNumbered, final) ∧
        final.active = 20 ∧
        (Backend.memory Memory.empty).depositAll
          [middle.deposit firstNumbered, final.deposit secondNumbered] = .ok inOrder ∧
        inOrder.LastAt "lobby" 20 ∧
        (Backend.memory Memory.empty).depositAll
          [final.deposit secondNumbered, middle.deposit firstNumbered] = .ok reversed ∧
        reversed.LastAt "lobby" 10 :=
  ⟨.memory, rfl, activity_of_last_write .memory [] rfl 10 20 (.written "ada" "a")
    (.written "bo" "b") []⟩

/--
Ada's message is added at the time 10 and Bo's at 20, and Bo's is written first.  The
archive then has 10 for the last activity, although the channel was active at 20.
-/
theorem activity_moved_back :
    ∃ first middle second final archive,
      quietLobby.record 10 (.written "ada" "a") = (some first, middle) ∧
      middle.record 20 (.written "bo" "b") = (some second, final) ∧
      (10 : Seconds) ≤ 20 ∧ final.active = 20 ∧
      (Backend.tables Tables.empty).depositAll [final.deposit second, middle.deposit first] =
        .ok archive ∧
      archive.LastAt "lobby" 10 ∧ ¬archive.LastAt "lobby" 20 := by
  have isOpen : quietLobby.closed = false := rfl
  rcases Channel.exists_record isOpen 10 (.written "ada" "a") with
    ⟨first, middle, firstAdded, firstTime, -, middleName, middleOpen⟩
  rcases Channel.exists_record middleOpen 20 (.written "bo" "b") with
    ⟨second, final, secondAdded, -, active, -, -⟩
  rcases Backend.exists_lastAt .tables [final.deposit second] (middle.deposit first) with
    ⟨archive, written, lastAt⟩
  have movedBack : archive.LastAt "lobby" 10 := by
    rw [Channel.deposit, firstTime, middleName] at lastAt
    exact lastAt
  refine ⟨first, middle, second, final, archive, firstAdded, secondAdded, by decide, active,
    written, movedBack, fun stayed => ?_⟩
  exact absurd (movedBack.unique stayed) (by decide)

end Archive

end FrameChat
