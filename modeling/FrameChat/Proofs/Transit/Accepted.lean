import FrameChat.Proofs.Channel.Standing
import FrameChat.Proofs.Service.History
import FrameChat.Proofs.Transit.Instances

/-!
# Accepted messages

Once an append has succeeded, its message should be in the log of whatever instance of
the channel is live, until newer ones fill the log; and no message should be stored in
the place of another one with the same number.  This is so as long as every instance
that is put into the directory is made of what the archive has at this moment, and
nothing is still to be written then.

Nothing makes it so, however.  Whoever opens a channel looks again whether another
instance is live, but not whether one was in between: nobody misses an instance that
appended messages and was swept since the history was read.

* `intact_of_orderly`: accepted messages stand, and stored ones are not overwritten, as
  long as instances are made of all that there is.
* `stale_history_loses_message`: an instance that is made of a stale history lacks an
  accepted message, and gives its number to another one.
-/

namespace FrameChat.Transit

variable {name : String} {transit after : Transit name}

/-! ## Nothing is missed -/

/-- All messages that a live instance has to show, with those that an archive holds. -/
def shown (transit : Transit name) (contents : Archive.Contents) : List Message :=
  contents name ++ transit.unwritten.map Archive.Deposit.message ++ transit.accepted

theorem mem_shown {transit : Transit name} {contents : Archive.Contents} {message : Message} :
    message ∈ transit.shown contents ↔
      message ∈ contents name ∨ (∃ deposit ∈ transit.unwritten, deposit.message = message) ∨
        message ∈ transit.accepted := by
  simp [shown]

/-- Nothing that was accepted is missing, neither from the archive nor from an open instance. -/
structure Complete (transit : Transit name) (contents : Archive.Contents) : Prop where
  holds : transit.chronicle.backend.Holds contents
  sound : contents.Sound
  kept : ∀ message ∈ transit.accepted,
    Channel.Stands transit.chronicle.limit (contents name) message
  fits : ∀ deposit ∈ transit.unwritten, deposit.message.Fits
  distinct : (transit.unwritten.map fun deposit => deposit.message.id).Nodup
  /-- what is still to be written has a number under which nothing is stored -/
  apart : ∀ deposit ∈ transit.unwritten, ∀ message ∈ contents name,
    message.id ≠ deposit.message.id
  shows : ∀ (index : Nat) (ledger : Channel.Ledger),
    transit.chronicle.ledgers[index]? = some ledger → ledger.closed = false →
      ledger.Shows (transit.shown contents)

variable {contents : Archive.Contents}

/-- What writes nothing, and opens no instance. -/
theorem Complete.frame
    (complete : transit.Complete contents)
    (limit : after.chronicle.limit = transit.chronicle.limit)
    (backend : after.chronicle.backend = transit.chronicle.backend)
    (ledgers : ∀ ledger ∈ after.chronicle.ledgers, ledger.closed = false →
      ledger ∈ transit.chronicle.ledgers)
    (fewer : after.unwritten.Sublist transit.unwritten)
    (accepted : after.accepted = transit.accepted) :
    after.Complete contents where
  holds := backend ▸ complete.holds
  sound := complete.sound
  kept := limit ▸ accepted ▸ complete.kept
  fits deposit member := complete.fits deposit (fewer.subset member)
  distinct := complete.distinct.sublist (fewer.map _)
  apart deposit member := complete.apart deposit (fewer.subset member)
  shows index ledger present isOpen := by
    have before := ledgers ledger (List.mem_of_getElem? present) isOpen
    rcases List.mem_iff_getElem?.mp before with ⟨place, found⟩
    refine (complete.shows place ledger found isOpen).mono ?_
    intro message
    rw [mem_shown, mem_shown, accepted]
    refine Or.imp_right (Or.imp_left ?_)
    rintro ⟨deposit, pending, said⟩
    exact ⟨deposit, fewer.subset pending, said⟩

theorem Complete.log
    (complete : transit.Complete contents)
    (sound : transit.Sound)
    (positive : 0 < transit.chronicle.limit)
    {index : Nat}
    {ledger : Channel.Ledger}
    {numbered : Message}
    (found : transit.chronicle.ledgers[index]? = some ledger)
    (isOpen : ledger.closed = false)
    (above : ledger.lastId < numbered.id)
    (fits : numbered.Fits)
    (became : after.chronicle = transit.chronicle.set index (ledger.add numbered))
    (grown : after.unwritten.Sublist
      (transit.unwritten ++ [⟨ledger.name, numbered, numbered.time, ledger.limit⟩]))
    (accepted : after.accepted = transit.accepted) :
    after.Complete contents := by
  have shows := complete.shows index ledger found isOpen
  have ledgerPositive : 0 < ledger.limit :=
    (sound.own ledger (List.mem_of_getElem? found)).2 ▸ positive
  have below : ∀ message ∈ transit.shown contents, message.id < numbered.id := by
    intro message member
    exact UInt64.lt_of_le_of_lt
      ((shows.stands message member).le ledgerPositive shows.bounded) above
  constructor
  case holds => exact became ▸ complete.holds
  case sound => exact complete.sound
  case kept =>
    rw [became, accepted]
    exact complete.kept
  case fits =>
    intro deposit member
    rcases List.mem_append.mp (grown.subset member) with before | last
    · exact complete.fits deposit before
    · exact List.mem_singleton.mp last ▸ fits
  case distinct =>
    refine List.Nodup.sublist (grown.map _) ?_
    rw [List.map_append, List.map_singleton, List.nodup_append]
    refine ⟨complete.distinct, List.nodup_singleton _, ?_⟩
    intro id member other last
    rcases List.mem_map.mp member with ⟨deposit, before, rfl⟩
    have under := below deposit.message (mem_shown.mpr (.inr (.inl ⟨deposit, before, rfl⟩)))
    exact List.mem_singleton.mp last ▸ UInt64.ne_of_lt under
  case apart =>
    intro deposit member message stored
    rcases List.mem_append.mp (grown.subset member) with before | last
    · exact complete.apart deposit before message stored
    · have under := below message (mem_shown.mpr (.inl stored))
      exact List.mem_singleton.mp last ▸ UInt64.ne_of_lt under
  case shows =>
    intro place other present otherOpen
    have within := (List.getElem?_eq_some_iff.mp found).1
    rw [became, Chronicle.set] at present
    by_cases here : index = place
    · subst here
      rw [List.getElem?_set_self within, Option.some.injEq] at present
      subst present
      refine (shows.add ledgerPositive above).mono fun message member => ?_
      rw [mem_shown, accepted] at member
      rw [List.mem_cons, mem_shown]
      rcases member with stored | ⟨deposit, pending, rfl⟩ | before
      · exact .inr (.inl stored)
      · rcases List.mem_append.mp (grown.subset pending) with before | last
        · exact .inr (.inr (.inl ⟨deposit, before, rfl⟩))
        · exact .inl (congrArg Archive.Deposit.message (List.mem_singleton.mp last))
      · exact .inr (.inr (.inr before))
    · rw [List.getElem?_set_ne here] at present
      exact absurd (sound.index_eq found isOpen present otherOpen) here

theorem Complete.write
    (complete : transit.Complete contents)
    (sound : transit.Sound)
    {pick : Nat}
    {deposit : Archive.Deposit}
    {backend : Archive.Backend}
    (found : transit.unwritten[pick]? = some deposit)
    (written : transit.chronicle.backend.append deposit.channel deposit.message deposit.active
      deposit.keep = .ok backend)
    (became : after.chronicle = { transit.chronicle with backend })
    (rest : after.unwritten = transit.unwritten.eraseIdx pick)
    (accepted : after.accepted = transit.accepted ++ [deposit.message]) :
    after.Complete (contents.add name deposit.message transit.chronicle.limit) := by
  have member := List.mem_of_getElem? found
  rcases sound.unwritten deposit member with ⟨channel, keep⟩
  rw [channel, keep] at written
  have increasing := complete.sound.increasing name
  have stored : contents.add name deposit.message transit.chronicle.limit name =
      Channel.newest transit.chronicle.limit (Archive.place deposit.message (contents name)) :=
    Archive.Contents.add_same ..
  have mem_stored {message : Message}
      (present : message ∈ contents.add name deposit.message transit.chronicle.limit name) :
      message = deposit.message ∨ message ∈ contents name :=
    Archive.mem_place (Archive.mem_of_mem_newest (stored ▸ present))
  have distinct := ((perm_of_getElem? found).map fun deposit => deposit.message.id).nodup_iff.mp
    complete.distinct
  rcases List.nodup_cons.mp distinct with ⟨unique, restDistinct⟩
  have remaining {other : Archive.Deposit} (present : other ∈ after.unwritten) :
      other ∈ transit.unwritten := List.mem_of_mem_eraseIdx (rest ▸ present)
  constructor
  case holds =>
    rw [became]
    rcases complete.holds.append name deposit.message deposit.active transit.chronicle.limit with
      ⟨next, appended, holds⟩
    rw [written, Except.ok.injEq] at appended
    exact appended ▸ holds
  case sound => exact complete.sound.add name (complete.fits deposit member) _
  case kept =>
    rw [became, accepted, stored]
    intro message present
    rcases List.mem_append.mp present with before | last
    · exact (complete.kept message before).place increasing
        fun there => complete.apart deposit member message there
    · rw [List.mem_singleton.mp last]
      refine Channel.stands_newest (Archive.increasing_place increasing _) _ ?_
      exact (Archive.mem_place_iff increasing).mpr (Or.inl rfl)
  case fits => exact fun other present => complete.fits other (remaining present)
  case distinct =>
    rw [rest]
    exact restDistinct
  case apart =>
    intro other present message there
    rcases mem_stored there with rfl | before
    · intro same
      exact unique (List.mem_map.mpr ⟨other, rest ▸ present, same.symm⟩)
    · exact complete.apart other (remaining present) message before
  case shows =>
    rw [became]
    intro index ledger there isOpen
    refine (complete.shows index ledger there isOpen).mono fun message present => ?_
    have waited : ∃ other ∈ transit.unwritten, other.message = deposit.message :=
      ⟨deposit, member, rfl⟩
    rw [mem_shown, accepted, List.mem_append, List.mem_singleton] at present
    rw [mem_shown]
    rcases present with stays | ⟨other, left, rfl⟩ | before | rfl
    · exact (mem_stored stays).elim (fun last => .inr (.inl (last ▸ waited))) .inl
    · exact .inr (.inl ⟨other, remaining left, rfl⟩)
    · exact .inr (.inr before)
    · exact .inr (.inl waited)

/-- An instance that is made of what the archive holds shows all that there is. -/
theorem Complete.install
    (complete : transit.Complete contents)
    (sound : transit.Sound)
    {history : List Message}
    (absent : transit.chronicle.find? name = none)
    (nothing : transit.unwritten = [])
    (current : transit.chronicle.backend.load name = .ok history)
    (became : after.chronicle =
      { transit.chronicle.push (.ofHistory name transit.chronicle.limit history) with
        entries := (name, transit.chronicle.ledgers.length) ::
          transit.chronicle.entries.filter fun entry => entry.1 ≠ name })
    (same : after.unwritten = transit.unwritten)
    (accepted : after.accepted = transit.accepted) :
    after.Complete contents := by
  rw [complete.holds.load (complete.sound.fits name), Except.ok.injEq] at current
  subst current
  constructor
  case holds => exact became ▸ complete.holds
  case sound => exact complete.sound
  case kept =>
    rw [became, accepted]
    exact complete.kept
  case fits => exact same ▸ complete.fits
  case distinct => exact same ▸ complete.distinct
  case apart => exact same ▸ complete.apart
  case shows =>
    rw [became]
    intro index ledger present isOpen
    rcases Chronicle.getElem?_push present with before | ⟨-, rfl⟩
    · rw [sound.closed_of_none absent before] at isOpen
      cases isOpen
    · refine Channel.Ledger.shows_ofHistory name (complete.sound.increasing name) ?_
      intro message member
      rw [mem_shown, same, nothing, accepted] at member
      rcases member with stored | ⟨deposit, pending, -⟩ | before
      · exact Or.inl stored
      · cases pending
      · exact complete.kept message before

/-! ## Any moves in order -/

/--
A message that is added fits, and there is a number left for it.  Whoever puts an
instance into the directory has read all that there is to read: nothing is still to
be written, and the archive has nothing else by now.
-/
def InOrder (transit : Transit name) : Move → Prop
  | .log index _ message =>
      message.Fits ∧ (transit.service.channel index).lastId.toNat < UInt64.size - 1
  | .insert pick .. => transit.service.find? name = none →
      transit.unwritten = [] ∧ ∀ history ∈ transit.histories[pick]?,
        transit.service.archive.backend.load name = .ok history
  | _ => True

/-- Each of some moves is in order where it is made. -/
def Orderly : Transit name → List Move → Prop
  | _, [] => True
  | transit, move :: rest => transit.InOrder move ∧ (transit.step move).Orderly rest

theorem limit_step (transit : Transit name) (move : Move) :
    (transit.step move).chronicle.limit = transit.chronicle.limit := by
  cases transit.makes_step move with
  | still same _ _ => rw [same]
  | logged _ _ _ became _ _ => rw [became]; rfl
  | written _ _ became _ _ => rw [became]
  | installed _ _ _ became _ _ => rw [became]; rfl
  | surplus became _ _ => rw [became]; rfl
  | swept swept _ _ => exact swept.limit

theorem Complete.step (complete : transit.Complete contents) (sound : transit.Sound)
    (positive : 0 < transit.chronicle.limit) {move : Move} (inOrder : transit.InOrder move) :
    ∃ next, (transit.step move).Complete next := by
  cases transit.makes_step move with
  | still same fewer accepted =>
      exact ⟨contents, complete.frame (by rw [same]) (by rw [same])
        (fun ledger member _ => same ▸ member) fewer accepted⟩
  | @logged index _ message numbered ledger _ found isOpen numbers became grown accepted =>
      rcases inOrder with ⟨fits, left⟩
      have here : (transit.service.channel index).ledger = ledger := Service.ledger_channel found
      have above := numbers.above (here ▸ left)
      have numberedFits : numbered.Fits := numbers.same ▸ ⟨fits.author, fits.text⟩
      exact ⟨contents, complete.log sound positive found isOpen above numberedFits became grown
        accepted⟩
  | written found written became rest accepted =>
      exact ⟨_, complete.write sound found written became rest accepted⟩
  | installed found made absent became same accepted =>
      have nobody := find?_of_push absent
      rcases inOrder ((Service.find?_chronicle _ _).symm.trans nobody) with ⟨nothing, current⟩
      exact ⟨contents, complete.install sound nobody nothing (current _ found) (made ▸ became) same
        accepted⟩
  | surplus became same accepted =>
      refine ⟨contents, complete.frame (by rw [became]; rfl) (by rw [became]; rfl) ?_
        (same ▸ List.Sublist.refl _) accepted⟩
      intro ledger member isOpen
      rw [became] at member
      rcases List.mem_append.mp member with before | last
      · exact before
      · rw [List.mem_singleton.mp last] at isOpen
        cases isOpen
  | swept swept same accepted =>
      refine ⟨contents, complete.frame swept.limit swept.backend ?_ (same ▸ List.Sublist.refl _)
        accepted⟩
      intro ledger member isOpen
      rcases List.mem_iff_getElem?.mp member with ⟨index, present⟩
      exact List.mem_of_getElem? (swept.of_open present isOpen).1

theorem Complete.run (complete : transit.Complete contents) (sound : transit.Sound)
    (positive : 0 < transit.chronicle.limit) {moves : List Move} (orderly : transit.Orderly moves) :
    (transit.run moves).Sound ∧ (transit.run moves).chronicle.limit = transit.chronicle.limit ∧
      ∃ final, (transit.run moves).Complete final := by
  induction moves generalizing transit contents with
  | nil => exact ⟨sound, rfl, contents, complete⟩
  | cons move rest ih =>
      rcases orderly with ⟨inOrder, restOrderly⟩
      rcases complete.step sound positive inOrder with ⟨next, nextComplete⟩
      have sameLimit := transit.limit_step move
      rcases ih nextComplete (sound.step move) (sameLimit ▸ positive) restOrderly with
        ⟨finalSound, finalLimit, final⟩
      exact ⟨finalSound, finalLimit.trans sameLimit, final⟩

/--
Accepted messages are in the log of the live instance, or newer ones fill it; and no
message that is still to be written has the number of one that is stored.
-/
structure Intact (transit : Transit name) : Prop where
  live : ∀ index, transit.service.find? name = some index → ∀ message ∈ transit.accepted,
    Channel.Stands transit.service.channelSettings.historyLimit
      (transit.service.channel index).log message
  apart : ∃ stored, transit.service.archive.backend.load name = .ok stored ∧
    ∀ deposit ∈ transit.unwritten, ∀ message ∈ stored, message.id ≠ deposit.message.id

theorem Complete.intact (complete : transit.Complete contents) (sound : transit.Sound) :
    transit.Intact := by
  constructor
  case live =>
    intro index found message member
    rcases Option.filter_eq_some_iff.mp found with ⟨-, isOpen⟩
    rw [Bool.not_eq_true'] at isOpen
    have present := Service.getElem?_of_open isOpen
    have shows := complete.shows index _ present isOpen
    have limit := (sound.own _ (List.mem_of_getElem? present)).2
    have stands := shows.stands message (mem_shown.mpr (.inr (.inr member)))
    rw [limit] at stands
    exact stands
  case apart =>
    exact ⟨_, complete.holds.load (complete.sound.fits name), complete.apart⟩

/--
From the start of a service on an archive that was written before, and through any
interleaving of appends, openings and sweeps: if every instance that is put into the
directory is made of all that there is, each accepted message is in the log of the live
instance until newer ones fill it, and none is overwritten by another of its number.
-/
theorem intact_of_orderly
    (studio : Studio)
    (settings : Channel.Settings)
    (limits : Intake.Limits)
    (clock : Seconds)
    (entropy : Entropy)
    {archive : Archive}
    (written : archive.backend.Written)
    (positive : 0 < settings.historyLimit)
    (name : String)
    {moves : List Move}
    (orderly :
      (opening name (.start studio settings limits clock entropy archive)).Orderly moves) :
    ((opening name (.start studio settings limits clock entropy archive)).run moves).Intact := by
  rcases written.holds with ⟨contents, holds, contentsSound⟩
  let start := opening name (.start studio settings limits clock entropy archive)
  have chronicle : start.chronicle = ⟨settings.historyLimit, archive.backend, [], []⟩ :=
    Service.chronicle_start studio settings limits clock entropy archive
  have sound : start.Sound := by
    refine ⟨?_, ?_, ?_, fun _ member => nomatch member⟩ <;> rw [chronicle]
    · exact fun _ member => nomatch member
    · exact List.nodup_nil
    · exact fun _ _ found => nomatch found
  have complete : start.Complete contents := by
    refine ⟨chronicle ▸ holds, contentsSound, (fun _ member => nomatch member),
      (fun _ member => nomatch member), List.nodup_nil, (fun _ member => nomatch member), ?_⟩
    rw [chronicle]
    exact fun _ _ found => nomatch found
  rcases complete.run sound (chronicle ▸ positive) orderly with ⟨finalSound, -, final, whole⟩
  exact whole.intact finalSound

def blankNotices : PerViewport Frame :=
  ⟨Frame.empty .narrow, Frame.empty .wide⟩

/-- The lobby is opened, written to and swept, and is then opened and written to again. -/
def reopeningMoves : List Move :=
  [.read, .insert 0 1700000000 7 blankNotices, .log 0 1700000000 (.written "ada" "zero"), .write 0,
    .purge, .read, .insert 0 1700000000 9 blankNotices, .log 1 1600000000 (.written "bo" "one")]

theorem intact_of_reopening :
    Service.bare.archive.backend.Written ∧ 0 < Channel.Settings.standard.historyLimit ∧
      (opening "lobby" Service.bare).Orderly reopeningMoves ∧
      ((opening "lobby" Service.bare).run reopeningMoves).Intact ∧
      ((opening "lobby" Service.bare).run reopeningMoves).accepted.map Message.text = ["zero"] ∧
      ((opening "lobby" Service.bare).run reopeningMoves).service.find? "lobby" = some 1 := by
  have written : Service.bare.archive.backend.Written := .blank .memory
  have orderly : (opening "lobby" Service.bare).Orderly reopeningMoves := by
    refine ⟨trivial, fun _ => ?_, ⟨⟨by decide, by decide⟩, ?_⟩, trivial, trivial,
      trivial, fun _ => ?_, ⟨⟨by decide, by decide⟩, ?_⟩, trivial⟩
    all_goals decide +kernel
  exact ⟨written, by decide, orderly, intact_of_orderly _ _ _ _ _ written (by decide) "lobby" orderly,
    by decide +kernel, by decide +kernel⟩

/-- The lobby is swept and opened again between the two steps of an append. -/
def lateMoves : List Move :=
  [.read, .insert 0 1700000000 7 blankNotices, .log 0 1700000000 (.written "ada" "zero"), .purge,
    .read, .insert 0 1700000000 9 blankNotices, .write 0]

example :
    ((opening "lobby" Service.bare).run lateMoves).accepted.map Message.text = ["zero"] ∧
      ((opening "lobby" Service.bare).run lateMoves).service.find? "lobby" = some 1 ∧
      (((opening "lobby" Service.bare).run lateMoves).service.channel 1).log = [] := by
  decide +kernel

/--
Two read the history of the lobby while nothing is live.  One of them opens it, a message
is appended, and the lobby is swept, before the other one goes on with what it read.
-/
def staleMoves : List Move :=
  [.read, .insert 0 1700000000 7 blankNotices, .log 0 1700000000 (.written "ada" "zero"), .write 0,
    .purge, .read, .read, .insert 0 1700000000 7 blankNotices,
    .log 1 1600000000 (.written "ada" "one"), .write 0, .purge,
    .insert 0 1700000000 7 blankNotices, .log 2 1600000000 (.written "bo" "two")]

/--
The live instance then lacks the message that was accepted, although its log is far from
full, and gives its number to another one, which takes its place when it is written.
-/
theorem stale_history_loses_message :
    let final := (opening "lobby" Service.bare).run staleMoves
    let zero : Message := ⟨214748365881475080, "ada", 1700000000, .text, "zero"⟩
    let one : Message := ⟨214748365881475081, "ada", 1600000000, .text, "one"⟩
    let two : Message := ⟨214748365881475081, "bo", 1600000000, .text, "two"⟩
    final.service.channelSettings.historyLimit = 50 ∧ final.accepted = [zero, one] ∧
      final.service.find? "lobby" = some 2 ∧ (final.service.channel 2).log = [zero, two] ∧
      final.unwritten.map Archive.Deposit.message = [two] ∧
      final.service.archive.backend.load "lobby" = .ok [zero, one] ∧
      (final.step (.write 0)).service.archive.backend.load "lobby" = .ok [zero, two] ∧
      ¬final.Intact := by
  intro final zero one two
  have limit : final.service.channelSettings.historyLimit = 50 := by decide +kernel
  have accepted : final.accepted = [zero, one] := by decide +kernel
  have live : final.service.find? "lobby" = some 2 := by decide +kernel
  have log : (final.service.channel 2).log = [zero, two] := by decide +kernel
  have missing : ¬Channel.Stands 50 [zero, two] one := by decide
  refine ⟨limit, accepted, live, log, by decide +kernel, by decide +kernel, by decide +kernel, ?_⟩
  intro intact
  have stands := intact.live 2 live one (by simp [accepted])
  rw [limit, log] at stands
  exact missing stands

end FrameChat.Transit
