import FrameChat.Proofs.Directory.Sweeps
import FrameChat.Service.Rooms

/-!
# One live instance under a name

Several requests may load the same channel at the same time, sweep it and load it
again.  However their steps are interleaved, whoever was given an instance of a
channel that is not closed was given the one that stands in the directory; what a
sweep closes are exactly the entries that nobody watches when it looks at them; and
an instance that is closed stays without viewers and messages for good.

* `continues_run`: what any moves leave of an instance.
* `live_instances`: all this for every list of moves.
-/

namespace FrameChat

namespace Service

open Operation

/-! ## Requests to a closed channel -/

theorem run_join_of_closed {service : Service} {index : Nat}
    (closed : service.isClosed index = true) (identity : String) (viewport : Viewport)
    (address : Net.Address) :
    (Service.run (join index identity viewport address) service).1 = .ok .closed := by
  have shut : (service.channel index).closed = true := closed
  have refused : (withChannel index (·.enter identity viewport address) service).1 = .closed := by
    show ((service.channel index).enter identity viewport address).1 = .closed
    rw [Channel.enter, if_pos shut]
  rw [Service.run, join, run_bind, Service.onChannel, run_act]
  simp only [refused]
  rfl

theorem run_append_of_closed {service : Service} {index : Nat}
    (closed : service.isClosed index = true) (message : Message) :
    (Service.run (append index message) service).1 = .ok (.error .closed) := by
  have refused : (withChannel index (·.record service.clock message) service).1 = none :=
    congrArg Prod.fst (Channel.record_of_closed closed service.clock message)
  have shown : Operation.run (fun service => some service.clock) Operation.now service =
      (.ok service.clock, service) := rfl
  rw [Service.run, append, run_bind, shown]
  dsimp only
  rw [run_bind, Service.onChannel, run_act]
  simp only [refused]
  rfl
end Service

namespace House

/-- A house in which nothing has happened yet. -/
def opening (service : Service) : House :=
  ⟨service, [], [], [], none, []⟩

theorem sound_opening {service : Service} (channels : service.channels = #[])
    (entries : service.directory.entries = []) : (opening service).Sound := by
  have empty : (opening service).entries = [] := entries
  constructor
  case keys => simp [empty]
  case listed =>
    intro entry
    rw [empty]
    simp [opening]
  case named => simp [opening]
  case waiting => simp [opening]
  case vain => simp [opening]
  case unknown => simp [opening]
  case distinct => simp [opening]
  case vacant =>
    intro index _
    simp [opening, Service.channel, channels]
    rfl
  case rests =>
    intro index _
    simp [opening, Service.channel, channels]
    rfl
  case left => simp [opening]

/-! ## What moves leave of an instance -/

theorem continues_onChannel (house : House) (index : Nat) {change : Channel → Channel}
    (continues : ∀ channel : Channel, channel.Continues (change channel)) (other : Nat) :
    (house.service.channel other).Continues ((house.onChannel index change).service.channel other) := by
  rcases house.channel_onChannel index change other with ⟨-, changed⟩ | same
  · rw [changed]
    exact continues _
  · rw [same]
    exact Channel.Continues.refl _

theorem continues_look (house : House) (entry : String × Nat) (index : Nat) :
    (house.service.channel index).Continues ((house.look entry).service.channel index) := by
  rw [look]
  split
  · exact house.continues_onChannel entry.2 Channel.continues_closeIfIdle index
  · exact Channel.Continues.refl _

/-- An instance is never lost, and no move opens it again. -/
theorem continues_step (house : House) (move : Move) {index : Nat}
    (within : index < house.service.channels.size) :
    index < (house.step move).service.channels.size ∧
      (house.service.channel index).Continues ((house.step move).service.channel index) := by
  have unchanged : index < house.service.channels.size ∧
      (house.service.channel index).Continues (house.service.channel index) :=
    ⟨within, Channel.Continues.refl _⟩
  cases move with
  | find name =>
      rw [step]
      split
      · split <;> exact unchanged
      · exact unchanged
  | seek name =>
      rw [step]
      split
      · split <;> exact unchanged
      · exact unchanged
  | load pick history active counter notices =>
      rw [step]
      split
      · rw [channel_takeIn, if_neg (Nat.ne_of_lt within), takeIn, Array.size_push]
        exact ⟨Nat.lt_succ_of_lt within, Channel.Continues.refl _⟩
      · exact unchanged
  | giveUp pick => exact unchanged
  | insert pick =>
      rw [step]
      split
      · split
        · rw [settle]
          dsimp only
          split <;> exact unchanged
        · exact unchanged
      · exact unchanged
  | discard pick =>
      rw [step]
      split
      case h_1 other _ =>
        refine ⟨?_, house.continues_onChannel other Channel.continues_close index⟩
        exact (house.size_onChannel other Channel.close).symm ▸ within
      case h_2 => exact unchanged
  | touch other touch =>
      rw [step]
      split
      · refine ⟨?_, house.continues_onChannel other (fun channel => channel.continues_touch touch) index⟩
        exact (house.size_onChannel other (·.touch touch)).symm ▸ within
      · exact unchanged
  | sweep =>
      rw [step]
      split <;> exact unchanged
  | check pick =>
      rw [step]
      split
      · split
        case h_1 entry _ =>
          exact ⟨(house.size_look entry).symm ▸ within, house.continues_look entry index⟩
        case h_2 => exact unchanged
      · exact unchanged
  | release =>
      rw [step]
      split <;> exact unchanged
  | aside change => exact unchanged

theorem continues_run (house : House) (moves : List Move) {index : Nat}
    (within : index < house.service.channels.size) :
    (house.service.channel index).Continues ((house.run moves).service.channel index) := by
  induction moves generalizing house with
  | nil => exact Channel.Continues.refl _
  | cons move rest ih =>
      rcases house.continues_step move within with ⟨stillWithin, continues⟩
      exact continues.trans (ih (house.step move) stillWithin)

/-! ## The theorem -/

/-- Whoever has an instance that is not closed has the one that stands in the directory. -/
structure Exclusive (house : House) : Prop where
  found : ∀ name index, (name, index) ∈ house.given → house.service.isClosed index = false →
    house.service.find? name = some index ∧ (house.service.channel index).name = name
  single : ∀ name first second, (name, first) ∈ house.given → (name, second) ∈ house.given →
    house.service.isClosed first = false → house.service.isClosed second = false → first = second

/--
A sweep during which some moves are made looks at every entry that stood in the
directory.  It closes and drops the entry if nobody watches at that moment, and
otherwise leaves it alone; other channels it does not touch.
-/
structure Swept (house : House) (during : List Move) : Prop where
  looked : ∀ entry ∈ house.entries, ∃ earlier pick later,
    during = earlier ++ .check pick :: later ∧
      ((house.step .sweep).run earlier).LooksAt pick entry ∧
      let before := (house.step .sweep).run earlier
      let after := before.step (.check pick)
      let final := (house.step .sweep).run during
      (entry ∉ final.entries ↔ (before.service.channel entry.2).roster.isEmpty = true) ∧
      (final.service.isClosed entry.2 = true ↔
        (before.service.channel entry.2).roster.isEmpty = true) ∧
      ∀ other, other ≠ entry.2 → after.service.channel other = before.service.channel other
  fewer : ∀ entry ∈ ((house.step .sweep).run during).entries, entry ∈ house.entries

/--
An instance is closed for good.  Whatever happens, nobody watches it and its log
stays as it is, and who comes to watch or to write is told that it is closed.
-/
def Retired (house : House) (index : Nat) : Prop :=
  ∀ moves, let service := (house.run moves).service
    service.isClosed index = true ∧ (service.channel index).roster.isEmpty = true ∧
      (service.channel index).log = (house.service.channel index).log ∧
      (∀ identity viewport address,
        (service.run (Service.join index identity viewport address)).1 = .ok .closed) ∧
      ∀ message, (service.run (Service.append index message)).1 = .ok (.error .closed)

variable {house : House}

theorem Sound.exclusive (sound : house.Sound) : house.Exclusive := by
  have found (name : String) (index : Nat) (given : (name, index) ∈ house.given)
      (isOpen : house.service.isClosed index = false) : house.service.find? name = some index :=
    sound.find?_eq_some_iff.mpr ((sound.listed _).mpr ⟨given, isOpen⟩)
  constructor
  · intro name index given isOpen
    exact ⟨found name index given isOpen, (sound.named _ given).2⟩
  · intro name first second firstGiven secondGiven firstOpen secondOpen
    have same := found name first firstGiven firstOpen
    rw [found name second secondGiven secondOpen] at same
    exact (Option.some.inj same).symm

theorem Sound.retired (sound : house.Sound) {index : Nat}
    (within : index < house.service.channels.size)
    (closed : house.service.isClosed index = true) : house.Retired index := by
  intro moves service
  rcases (house.continues_run moves within).rests ⟨closed, sound.rests index closed⟩ with
    ⟨resting, sameLog⟩
  exact ⟨resting.closed, resting.vacant, sameLog, service.run_join_of_closed resting.closed,
    service.run_append_of_closed resting.closed⟩

/-- What a look does to the channels. -/
theorem LooksAt.channel_step {pick : Nat} {entry : String × Nat} (looks : house.LooksAt pick entry)
    (sound : house.Sound) :
    (∀ other, other ≠ entry.2 →
      (house.step (.check pick)).service.channel other = house.service.channel other) ∧
    ((house.service.channel entry.2).roster.isEmpty = true →
      ((house.step (.check pick)).service.channel entry.2).Rests) := by
  have within := lt_size_of_open ((sound.listed entry).mp (looks.mem_entries sound)).2
  rw [looks.service_step]
  constructor
  · intro other differ
    cases idle : (house.service.channel entry.2).roster.isEmpty with
    | false => rw [look_of_watched idle]
    | true => rw [channel_look_of_idle idle within, if_neg differ]
  · intro idle
    rw [channel_look_of_idle idle within, if_pos rfl]
    exact ⟨rfl, idle⟩

theorem Sound.swept (sound : house.Sound) (free : house.free = true) {during : List Move}
    (going : .release ∉ during)
    (finished : ((house.step .sweep).run during).sweeping = some []) : house.Swept during := by
  have began : house.step .sweep = { house with sweeping := some house.entries } := by
    rw [House.step, if_pos free]
  have held : (house.step .sweep).sweeping = some house.entries := by rw [began]
  have entries : (house.step .sweep).entries = house.entries := by
    rw [began]
    rfl
  have soundBegun := sound.step .sweep
  have soundFinal := soundBegun.run during
  constructor
  case looked =>
    intro entry member
    rcases exists_look soundBegun held going finished member with
      ⟨earlier, pick, later, split, looks, stays⟩
    have soundBefore := soundBegun.run earlier
    rcases looks.channel_step soundBefore with ⟨others, closes⟩
    have dropped : entry ∉ ((house.step .sweep).run during).entries ↔
        (((house.step .sweep).run earlier).service.channel entry.2).roster.isEmpty = true := by
      rw [stays, Bool.not_eq_false]
    refine ⟨earlier, pick, later, split, looks, dropped, ⟨fun closed => ?_, fun idle => ?_⟩, others⟩
    · refine dropped.mp fun still => ?_
      rw [((soundFinal.listed entry).mp still).2] at closed
      cases closed
    · have within : entry.2 < (((house.step .sweep).run earlier).step
          (.check pick)).service.channels.size :=
        (continues_step _ _ (lt_size_of_open
          ((soundBefore.listed entry).mp (looks.mem_entries soundBefore)).2)).1
      have final := continues_run _ later within
      rw [split, House.run, List.foldl_append, List.foldl_cons]
      exact (final.rests (closes idle)).1.closed
  case fewer =>
    intro entry member
    by_contra absent
    exact absent (entries ▸ (mem_entries_of_looked soundBegun held going absent).mp member)

/--
However the steps of any requests are interleaved: whoever was given an instance of a
channel that is not closed has the one that stands in the directory; a sweep closes
and drops exactly the entries that nobody watches when it looks at them; what was
loaded in vain is closed; and what is closed stays without viewers and as it is.
-/
theorem live_instances
    (studio : Studio)
    (settings : Channel.Settings)
    (limits : Intake.Limits)
    (clock : Seconds)
    (entropy : Entropy)
    (archive : Archive)
    (moves : List Move) :
    let house := (opening (.start studio settings limits clock entropy archive)).run moves
    house.Exclusive ∧
      (∀ during, house.free = true → .release ∉ during →
        ((house.step .sweep).run during).sweeping = some [] → house.Swept during) ∧
      (∀ pick index, house.surplus[pick]? = some index →
        (house.step (.discard pick)).service.isClosed index = true) ∧
      ∀ index, index < house.service.channels.size → house.service.isClosed index = true →
        house.Retired index := by
  intro house
  have sound : house.Sound := (sound_opening rfl rfl).run moves
  refine ⟨sound.exclusive, fun during free => sound.swept free, fun pick index surplus => ?_,
    fun index => sound.retired⟩
  have isOpen := sound.vain index (List.mem_of_getElem? surplus)
  simp only [step, surplus]
  show ((house.onChannel index Channel.close).service.channel index).closed = true
  rw [channel_onChannel_self _ _ (lt_size_of_open isOpen), Channel.closed_close]

/--
Two people load the hall at the same time, and what one of them loaded is closed.
Somebody comes to the hall, and then the attic is opened.
-/
def race : List Move :=
  let notices : PerViewport Frame := ⟨Frame.empty .narrow, Frame.empty .wide⟩
  [.seek "hall", .seek "hall", .load 0 [] 0 0 notices, .load 0 [] 0 0 notices,
    .insert 0, .insert 0, .discard 0, .touch 1 (.enter "ada" .wide (.v4 127 0 0 1)),
    .seek "attic", .load 0 [] 0 0 notices, .insert 0]

theorem live_instances_after_race :
    ∃ house, house = (opening Service.bare).run race ∧
      house.given = [("attic", 2), ("hall", 1), ("hall", 1)] ∧
      house.Exclusive ∧ house.Swept [.check 0, .check 0] ∧ house.Retired 0 ∧
      ((house.step .sweep).run [.check 0, .check 0]).entries = [("hall", 1)] := by
  rcases live_instances ⟨none, ⟨0, ∅⟩, none, .webp, ⟨fun _ _ => none⟩⟩ .standard .standard 1700000000
    ⟨0⟩ .inMemory race with ⟨exclusive, swept, -, retired⟩
  refine ⟨_, rfl, by decide +kernel, exclusive, swept _ rfl (by simp) ?_, retired 0 ?_ rfl, ?_⟩
  · decide +kernel
  · decide +kernel
  · decide +kernel

end House

end FrameChat
