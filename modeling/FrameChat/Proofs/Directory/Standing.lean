import FrameChat.Proofs.Directory.House
import FrameChat.Proofs.Lookup
import FrameChat.Proofs.Service.Footprints

/-!
# Where every instance stands

Every instance of a channel is either waiting to be put under its name, or about to
be closed since it was loaded in vain, or was given to somebody.  Those that wait
are not closed, nobody knows them and so nobody watches them.  Of those that were
given, exactly the ones that are not closed stand in the directory.

`Sound` says so of a house, and `sound_run` that it stays so whatever the moves are.
-/

namespace FrameChat.House

/-- Whether somebody was given an instance, under whatever name. -/
def Known (house : House) (index : Nat) : Prop :=
  ∃ name, (name, index) ∈ house.given

/-- Every instance stands where it belongs. -/
structure Sound (house : House) : Prop where
  keys : (house.entries.map Prod.fst).Nodup
  /-- of the instances that were given, the directory has those that are not closed -/
  listed : ∀ entry, entry ∈ house.entries ↔
    entry ∈ house.given ∧ house.service.isClosed entry.2 = false
  named : ∀ entry ∈ house.given, entry.2 < house.service.channels.size ∧
    (house.service.channel entry.2).name = entry.1
  waiting : ∀ entry ∈ house.loaded, house.service.isClosed entry.2 = false ∧
    (house.service.channel entry.2).name = entry.1
  vain : ∀ index ∈ house.surplus, house.service.isClosed index = false
  unknown : ∀ index ∈ house.loaded.map Prod.snd ++ house.surplus, ¬house.Known index
  distinct : (house.loaded.map Prod.snd ++ house.surplus).Nodup
  /-- nobody watches what nobody knows -/
  vacant : ∀ index, ¬house.Known index → (house.service.channel index).roster.isEmpty = true
  rests : ∀ index, house.service.isClosed index = true →
    (house.service.channel index).roster.isEmpty = true
  left : ∀ rest, house.sweeping = some rest → rest.Nodup ∧ rest ⊆ house.entries

/-! ## Channels of a house -/

theorem lt_size_of_open {service : Service} {index : Nat}
    (isOpen : service.isClosed index = false) : index < service.channels.size := by
  by_contra beyond
  have missing : service.channel index = Channel.shut := by
    simp [Service.channel, beyond]
  rw [Service.isClosed, missing] at isOpen
  cases isOpen

theorem size_onChannel (house : House) (index : Nat) (change : Channel → Channel) :
    (house.onChannel index change).service.channels.size = house.service.channels.size :=
  Service.size_withChannel index (fun channel => ((), change channel)) house.service

theorem channel_onChannel_self (house : House) {index : Nat} (change : Channel → Channel)
    (within : index < house.service.channels.size) :
    (house.onChannel index change).service.channel index = change (house.service.channel index) :=
  Service.channel_withChannel (fun channel => ((), change channel)) within

theorem channel_onChannel_of_ne (house : House) {index other : Nat} (change : Channel → Channel)
    (differ : other ≠ index) :
    (house.onChannel index change).service.channel other = house.service.channel other :=
  Service.channel_withChannel_of_ne (fun channel => ((), change channel)) house.service differ

/-- A change of one channel is that change, or none. -/
theorem channel_onChannel (house : House) (index : Nat) (change : Channel → Channel) (other : Nat) :
    (other = index ∧ (house.onChannel index change).service.channel other =
        change (house.service.channel other)) ∨
      (house.onChannel index change).service.channel other = house.service.channel other := by
  by_cases same : other = index
  · subst same
    by_cases within : other < house.service.channels.size
    · exact Or.inl ⟨rfl, house.channel_onChannel_self change within⟩
    · right
      simp [onChannel, Service.withChannel, Service.channel, within]
  · exact Or.inr (house.channel_onChannel_of_ne change same)

/-- Taking in a channel adds one, and leaves the others. -/
theorem channel_takeIn (house : House) (pick : Nat) (name : String) (channel : Channel)
    (index : Nat) :
    (house.takeIn pick name channel).service.channel index =
      if index = house.service.channels.size then channel else house.service.channel index := by
  rw [Service.channel, Service.channel, Array.getD_eq_getD_getElem?, Array.getD_eq_getD_getElem?,
    takeIn, Array.getElem?_push]
  split <;> rfl

variable {house after : House}

theorem Sound.find?_eq_some_iff (sound : house.Sound) {name : String} {index : Nat} :
    house.service.find? name = some index ↔ (name, index) ∈ house.entries := by
  rw [Service.find?, Directory.find?, Option.filter_eq_some_iff]
  constructor
  · rintro ⟨found, -⟩
    exact mem_of_lookup found
  · intro member
    refine ⟨lookup_of_mem sound.keys member, ?_⟩
    rw [((sound.listed _).mp member).2]
    rfl

theorem Sound.known_of_mem (sound : house.Sound) {entry : String × Nat}
    (member : entry ∈ house.entries) : house.Known entry.2 :=
  ⟨entry.1, ((sound.listed entry).mp member).1⟩

/-! ## Moves that close and open nothing -/

/-- What does not close a channel or open one, and lets nobody in whom it should not. -/
theorem Sound.frame
    (sound : house.Sound)
    (entries : after.entries = house.entries)
    (loaded : after.loaded = house.loaded)
    (surplus : after.surplus = house.surplus)
    (given : ∀ entry, entry ∈ after.given ↔ entry ∈ house.given)
    (size : after.service.channels.size = house.service.channels.size)
    (names : ∀ index, (after.service.channel index).name = (house.service.channel index).name)
    (closed : ∀ index, after.service.isClosed index = house.service.isClosed index)
    (rosters : ∀ index, ¬house.Known index ∨ house.service.isClosed index = true →
      (house.service.channel index).roster.isEmpty = true →
        (after.service.channel index).roster.isEmpty = true)
    (left : ∀ rest, after.sweeping = some rest → rest.Nodup ∧ rest ⊆ house.entries) :
    after.Sound := by
  have known (index : Nat) : after.Known index ↔ house.Known index :=
    exists_congr fun name => given (name, index)
  constructor
  case keys => exact entries ▸ sound.keys
  case listed =>
    intro entry
    rw [entries, given, closed]
    exact sound.listed entry
  case named =>
    intro entry member
    rw [size, names]
    exact sound.named entry ((given entry).mp member)
  case waiting =>
    intro entry member
    rw [closed, names]
    exact sound.waiting entry (loaded ▸ member)
  case vain =>
    intro index member
    rw [closed]
    exact sound.vain index (surplus ▸ member)
  case unknown =>
    rw [loaded, surplus]
    intro index member
    rw [known]
    exact sound.unknown index member
  case distinct =>
    rw [loaded, surplus]
    exact sound.distinct
  case vacant =>
    intro index unknown
    rw [known] at unknown
    exact rosters index (Or.inl unknown) (sound.vacant index unknown)
  case rests =>
    intro index isClosed
    rw [closed] at isClosed
    exact rosters index (Or.inr isClosed) (sound.rests index isClosed)
  case left =>
    rw [entries]
    exact left

/-- What changes neither channels nor the directory, and tells nobody of another instance. -/
theorem Sound.still
    (sound : house.Sound)
    (channels : after.service.channels = house.service.channels)
    (entries : after.entries = house.entries)
    (loaded : after.loaded = house.loaded)
    (surplus : after.surplus = house.surplus)
    (given : ∀ entry, entry ∈ after.given ↔ entry ∈ house.given)
    (left : ∀ rest, after.sweeping = some rest → rest.Nodup ∧ rest ⊆ house.entries) :
    after.Sound := by
  have same (index : Nat) : after.service.channel index = house.service.channel index := by
    rw [Service.channel, channels, Service.channel]
  refine sound.frame entries loaded surplus given (congrArg Array.size channels) ?_ ?_ ?_ left
  · intro index
    rw [same]
  · intro index
    rw [Service.isClosed, same, Service.isClosed]
  · intro index _ vacant
    rw [same]
    exact vacant

/-- Somebody is given an instance that stands in the directory. -/
theorem Sound.give (sound : house.Sound) {name : String} {index : Nat}
    (member : (name, index) ∈ house.entries) : (house.give name index).Sound := by
  have known := ((sound.listed _).mp member).1
  refine sound.still rfl rfl rfl rfl (fun entry => ?_) sound.left
  show entry ∈ (name, index) :: house.given ↔ _
  rw [List.mem_cons, or_iff_right_of_imp]
  rintro rfl
  exact known

theorem Sound.touch (sound : house.Sound) {index : Nat} {touch : Channel.Touch}
    (permitted : touch.draws = true ∨ house.Known index) :
    (house.onChannel index (·.touch touch)).Sound := by
  refine sound.frame rfl rfl rfl (fun entry => Iff.rfl) (house.size_onChannel index _) ?_ ?_ ?_
    sound.left
  · intro other
    rcases house.channel_onChannel index (·.touch touch) other with ⟨-, touched⟩ | same
    · rw [touched, Channel.name_touch]
    · rw [same]
  · intro other
    rw [Service.isClosed, Service.isClosed]
    rcases house.channel_onChannel index (·.touch touch) other with ⟨-, touched⟩ | same
    · rw [touched, Channel.closed_touch]
    · rw [same]
  · intro other idle vacant
    rcases house.channel_onChannel index (·.touch touch) other with ⟨rfl, touched⟩ | same
    · rw [touched, Channel.roster_touch, vacant]
      rcases permitted with draws | known
      · exact Or.inl draws
      · exact Or.inr ⟨idle.resolve_left (not_not_intro known), vacant⟩
    · rw [same, vacant]

/-! ## Loading -/

theorem Sound.takeIn
    (sound : house.Sound)
    (pick : Nat)
    {name : String}
    {channel : Channel}
    (named : channel.name = name)
    (isOpen : channel.closed = false)
    (vacant : channel.roster.isEmpty = true) :
    (house.takeIn pick name channel).Sound := by
  have others {index : Nat} (within : index < house.service.channels.size) :
      (house.takeIn pick name channel).service.channel index = house.service.channel index := by
    rw [channel_takeIn, if_neg (Nat.ne_of_lt within)]
  have added : (house.takeIn pick name channel).service.channel house.service.channels.size =
      channel := by
    rw [channel_takeIn, if_pos rfl]
  have stillOpen {index : Nat} (before : house.service.isClosed index = false) :
      (house.takeIn pick name channel).service.channel index = house.service.channel index :=
    others (lt_size_of_open before)
  have fresh : ¬house.Known house.service.channels.size := by
    rintro ⟨other, member⟩
    exact Nat.lt_irrefl _ (sound.named _ member).1
  have waits : house.service.channels.size ∉ house.loaded.map Prod.snd ++ house.surplus := by
    intro member
    rcases List.mem_append.mp member with loaded | surplus
    · rcases List.mem_map.mp loaded with ⟨entry, waiting, same⟩
      exact absurd (lt_size_of_open (sound.waiting entry waiting).1) (by omega)
    · exact Nat.lt_irrefl _ (lt_size_of_open (sound.vain _ surplus))
  constructor
  case keys => exact sound.keys
  case listed =>
    intro entry
    rw [show (house.takeIn pick name channel).entries = house.entries from rfl, sound.listed]
    refine and_congr_right fun member => ?_
    rw [Service.isClosed, Service.isClosed, others (sound.named entry member).1]
  case named =>
    intro entry member
    rcases sound.named entry member with ⟨within, same⟩
    rw [others within, House.takeIn, Array.size_push]
    exact ⟨Nat.lt_succ_of_lt within, same⟩
  case waiting =>
    intro entry member
    rcases List.mem_cons.mp member with rfl | before
    · rw [Service.isClosed, added]
      exact ⟨isOpen, named⟩
    · rcases sound.waiting entry before with ⟨waiting, same⟩
      rw [Service.isClosed, stillOpen waiting]
      exact ⟨waiting, same⟩
  case vain =>
    intro index member
    rw [Service.isClosed, stillOpen (sound.vain index member)]
    exact sound.vain index member
  case unknown =>
    intro index member
    rcases List.mem_cons.mp member with rfl | before
    · exact fresh
    · exact sound.unknown index before
  case distinct => exact List.nodup_cons.mpr ⟨waits, sound.distinct⟩
  case vacant =>
    intro index unknown
    rw [channel_takeIn]
    split
    · exact vacant
    · exact sound.vacant index unknown
  case rests =>
    intro index closed
    rw [Service.isClosed, channel_takeIn] at closed
    rw [channel_takeIn]
    split
    · exact vacant
    case isFalse differ =>
      rw [if_neg differ] at closed
      exact sound.rests index closed
  case left => exact sound.left

/-! ## Putting under a name -/

/-- What was loaded in vain is set aside. -/
theorem Sound.setAside (sound : house.Sound) {pick : Nat} {name : String} {index : Nat}
    (found : house.loaded[pick]? = some (name, index)) :
    Sound { house with
      loaded := house.loaded.eraseIdx pick
      surplus := index :: house.surplus } := by
  have split := perm_of_getElem? found
  have moved : (house.loaded.map Prod.snd ++ house.surplus).Perm
      ((house.loaded.eraseIdx pick).map Prod.snd ++ index :: house.surplus) :=
    ((split.map Prod.snd).append_right house.surplus).trans List.perm_middle.symm
  have isOpen := (sound.waiting (name, index) (List.mem_of_getElem? found)).1
  constructor
  case keys => exact sound.keys
  case listed => exact sound.listed
  case named => exact sound.named
  case waiting =>
    intro entry member
    exact sound.waiting entry (List.mem_of_mem_eraseIdx member)
  case vain =>
    intro other member
    rcases List.mem_cons.mp member with rfl | before
    · exact isOpen
    · exact sound.vain other before
  case unknown =>
    intro other member
    exact sound.unknown other (moved.mem_iff.mpr member)
  case distinct => exact moved.nodup_iff.mp sound.distinct
  case vacant => exact sound.vacant
  case rests => exact sound.rests
  case left => exact sound.left

/-- What was loaded is put under a name under which nothing stands. -/
theorem Sound.install (sound : house.Sound) (free : house.sweeping = none) {pick : Nat}
    {name : String} {index : Nat} (found : house.loaded[pick]? = some (name, index))
    {directory : Directory}
    (inserted : directory.entries =
      (name, index) :: house.entries.filter fun entry => entry.1 ≠ name)
    (absent : ∀ other, (name, other) ∉ house.entries) :
    Sound { house with
      service := { house.service with directory }
      loaded := house.loaded.eraseIdx pick
      given := (name, index) :: house.given } := by
  rcases sound.waiting _ (List.mem_of_getElem? found) with ⟨isOpen, named⟩
  have split := (perm_of_getElem? found).map Prod.snd
  have distinct : (index :: ((house.loaded.eraseIdx pick).map Prod.snd ++ house.surplus)).Nodup :=
    (split.append_right house.surplus).nodup_iff.mp sound.distinct
  have kept : house.entries.filter (fun entry => entry.1 ≠ name) = house.entries := by
    refine List.filter_eq_self.mpr fun entry member => decide_eq_true ?_
    rintro rfl
    exact absent _ member
  rw [kept] at inserted
  constructor
  case keys =>
    show (directory.entries.map Prod.fst).Nodup
    rw [inserted, List.map_cons, List.nodup_cons]
    refine ⟨fun member => ?_, sound.keys⟩
    rcases List.mem_map.mp member with ⟨⟨_, other⟩, present, rfl⟩
    exact absent other present
  case listed =>
    intro entry
    show entry ∈ directory.entries ↔ entry ∈ (name, index) :: house.given ∧ _
    rw [inserted, List.mem_cons, List.mem_cons, sound.listed, or_and_right]
    refine or_congr_left ⟨fun same => ⟨same, ?_⟩, And.left⟩
    rw [same]
    exact isOpen
  case named =>
    intro entry member
    rcases List.mem_cons.mp member with rfl | before
    · exact ⟨lt_size_of_open isOpen, named⟩
    · exact sound.named entry before
  case waiting =>
    intro entry member
    exact sound.waiting entry (List.mem_of_mem_eraseIdx member)
  case vain => exact sound.vain
  case unknown =>
    rintro other member ⟨title, present⟩
    have waited := (split.append_right house.surplus).mem_iff.mpr (List.mem_cons_of_mem index member)
    rcases List.mem_cons.mp present with same | before
    · cases same
      exact (List.nodup_cons.mp distinct).1 member
    · exact sound.unknown other waited ⟨title, before⟩
  case distinct => exact (List.nodup_cons.mp distinct).2
  case vacant =>
    intro other unknown
    refine sound.vacant other ?_
    rintro ⟨title, present⟩
    exact unknown ⟨title, List.mem_cons_of_mem _ present⟩
  case rests => exact sound.rests
  case left =>
    intro rest held
    cases free.symm.trans held

theorem Sound.settle (sound : house.Sound) (free : house.sweeping = none) {pick : Nat}
    {name : String} {index : Nat} (found : house.loaded[pick]? = some (name, index)) :
    (house.settle pick name index).Sound := by
  rw [House.settle, Directory.insert]
  dsimp only
  cases stands : house.service.find? name with
  | some existing =>
      rw [show house.service.directory.find? house.service.isClosed name = some existing from stands]
      exact (sound.setAside found).give (sound.find?_eq_some_iff.mp stands)
  | none =>
      rw [show house.service.directory.find? house.service.isClosed name = none from stands]
      refine sound.install free found rfl fun other member => ?_
      rw [sound.find?_eq_some_iff.mpr member] at stands
      cases stands

/-! ## Closing -/

/-- What was loaded in vain is closed. -/
theorem Sound.discard (sound : house.Sound) {pick index : Nat}
    (found : house.surplus[pick]? = some index) :
    Sound { house.onChannel index Channel.close with surplus := house.surplus.eraseIdx pick } := by
  have isOpen := sound.vain index (List.mem_of_getElem? found)
  have split := (perm_of_getElem? found).append_left (house.loaded.map Prod.snd)
  have distinct : (index :: (house.loaded.map Prod.snd ++ house.surplus.eraseIdx pick)).Nodup :=
    (split.trans List.perm_middle).nodup_iff.mp sound.distinct
  have unknown : ¬house.Known index := sound.unknown index (split.mem_iff.mpr (by simp))
  have rest {other : Nat}
      (member : other ∈ house.loaded.map Prod.snd ++ house.surplus.eraseIdx pick) :
      (house.onChannel index Channel.close).service.channel other = house.service.channel other := by
    refine house.channel_onChannel_of_ne Channel.close ?_
    rintro rfl
    exact (List.nodup_cons.mp distinct).1 member
  have known {other : Nat} (known : house.Known other) :
      (house.onChannel index Channel.close).service.channel other = house.service.channel other := by
    refine house.channel_onChannel_of_ne Channel.close ?_
    rintro rfl
    exact unknown known
  have roster (other : Nat) :
      ((house.onChannel index Channel.close).service.channel other).roster =
        (house.service.channel other).roster := by
    rcases house.channel_onChannel index Channel.close other with ⟨-, closed⟩ | same
    · rw [closed, Channel.roster_close]
    · rw [same]
  constructor
  case keys => exact sound.keys
  case listed =>
    intro entry
    refine (sound.listed entry).trans (and_congr_right fun member => ?_)
    rw [Service.isClosed, Service.isClosed, known ⟨entry.1, member⟩]
  case named =>
    intro entry member
    rw [size_onChannel, known ⟨entry.1, member⟩]
    exact sound.named entry member
  case waiting =>
    intro entry member
    rw [Service.isClosed, rest (List.mem_append_left _ (List.mem_map_of_mem member))]
    exact sound.waiting entry member
  case vain =>
    intro other member
    rw [Service.isClosed, rest (List.mem_append_right _ member)]
    exact sound.vain other (List.mem_of_mem_eraseIdx member)
  case unknown =>
    intro other member
    refine sound.unknown other (split.mem_iff.mpr ?_)
    exact List.perm_middle.mem_iff.mpr (List.mem_cons_of_mem index member)
  case distinct => exact (List.nodup_cons.mp distinct).2
  case vacant =>
    intro other unknown
    rw [roster]
    exact sound.vacant other unknown
  case rests =>
    intro other closed
    rw [roster]
    by_cases same : other = index
    · subst same
      exact sound.vacant other unknown
    · rw [Service.isClosed, house.channel_onChannel_of_ne Channel.close same] at closed
      exact sound.rests other closed
  case left => exact sound.left

theorem look_of_watched {entry : String × Nat}
    (watched : (house.service.channel entry.2).roster.isEmpty = false) :
    house.look entry = house := by
  rw [look, Channel.closeIfIdle_fst, watched]
  rfl

theorem entries_look_of_idle {entry : String × Nat}
    (idle : (house.service.channel entry.2).roster.isEmpty = true) :
    (house.look entry).entries = house.entries.filter fun other => other ≠ entry := by
  rw [look, Channel.closeIfIdle_fst, if_pos idle]
  rfl

theorem channel_look_of_idle {entry : String × Nat}
    (idle : (house.service.channel entry.2).roster.isEmpty = true)
    (within : entry.2 < house.service.channels.size) (index : Nat) :
    (house.look entry).service.channel index =
      if index = entry.2 then { house.service.channel index with closed := true }
      else house.service.channel index := by
  rw [look, Channel.closeIfIdle_fst, if_pos idle]
  show (house.onChannel entry.2 fun channel => channel.closeIfIdle.2).service.channel index = _
  split
  case isTrue same =>
    subst same
    rw [channel_onChannel_self _ _ within, Channel.closeIfIdle_of_idle idle]
  case isFalse differ => rw [channel_onChannel_of_ne _ _ differ]

theorem given_look (house : House) (entry : String × Nat) :
    (house.look entry).given = house.given := by
  rw [look]
  split <;> rfl

theorem loaded_look (house : House) (entry : String × Nat) :
    (house.look entry).loaded = house.loaded := by
  rw [look]
  split <;> rfl

theorem surplus_look (house : House) (entry : String × Nat) :
    (house.look entry).surplus = house.surplus := by
  rw [look]
  split <;> rfl

theorem size_look (house : House) (entry : String × Nat) :
    (house.look entry).service.channels.size = house.service.channels.size := by
  rw [look]
  split
  · exact house.size_onChannel entry.2 fun channel => channel.closeIfIdle.2
  · rfl

/-- An entry without viewers is closed and dropped. -/
theorem Sound.drop (sound : house.Sound) {entry : String × Nat}
    (member : entry ∈ house.entries)
    (idle : (house.service.channel entry.2).roster.isEmpty = true)
    {rest : List (String × Nat)} (nodup : rest.Nodup)
    (remaining : ∀ other ∈ rest, other ∈ house.entries ∧ other ≠ entry) :
    Sound { house.look entry with sweeping := some rest } := by
  rcases (sound.listed entry).mp member with ⟨given, isOpen⟩
  have channels := channel_look_of_idle idle (lt_size_of_open isOpen)
  have entries := entries_look_of_idle idle
  have roster (index : Nat) : ((house.look entry).service.channel index).roster =
      (house.service.channel index).roster := by
    rw [channels]
    split <;> rfl
  have name (index : Nat) : ((house.look entry).service.channel index).name =
      (house.service.channel index).name := by
    rw [channels]
    split <;> rfl
  have elsewhere {index : Nat} (differ : index ≠ entry.2) :
      (house.look entry).service.isClosed index = house.service.isClosed index := by
    rw [Service.isClosed, channels, if_neg differ, Service.isClosed]
  have here : (house.look entry).service.isClosed entry.2 = true := by
    rw [Service.isClosed, channels, if_pos rfl]
  -- What waits to be put under its name or to be closed is unknown, the entry is not.
  have waits {index : Nat} (waiting : index ∈ house.loaded.map Prod.snd ++ house.surplus) :
      index ≠ entry.2 := by
    rintro rfl
    exact sound.unknown _ waiting (sound.known_of_mem member)
  constructor
  case keys =>
    show ((house.look entry).entries.map Prod.fst).Nodup
    rw [entries]
    exact sound.keys.sublist (List.filter_sublist.map Prod.fst)
  case listed =>
    intro other
    show other ∈ (house.look entry).entries ↔
      other ∈ (house.look entry).given ∧ (house.look entry).service.isClosed other.2 = false
    rw [entries, given_look, List.mem_filter, sound.listed]
    by_cases same : other.2 = entry.2
    · -- An instance has one name, so no other entry has the instance of this one.
      rw [same, here]
      refine iff_of_false ?_ (by simp)
      rintro ⟨⟨otherGiven, -⟩, differ⟩
      have names : other.1 = entry.1 := by
        rw [← (sound.named other otherGiven).2, ← (sound.named entry given).2, same]
      exact of_decide_eq_true differ (Prod.ext names same)
    · have differ : other ≠ entry := fun equal => same (congrArg Prod.snd equal)
      rw [elsewhere same]
      simp [differ]
  case named =>
    intro other present
    rw [size_look, name]
    exact sound.named other (given_look house entry ▸ present)
  case waiting =>
    intro other present
    replace present : other ∈ house.loaded := loaded_look house entry ▸ present
    rw [elsewhere (waits (List.mem_append_left _ (List.mem_map_of_mem present))), name]
    exact sound.waiting other present
  case vain =>
    intro index present
    replace present : index ∈ house.surplus := surplus_look house entry ▸ present
    rw [elsewhere (waits (List.mem_append_right _ present))]
    exact sound.vain index present
  case unknown =>
    show ∀ index ∈ (house.look entry).loaded.map Prod.snd ++ (house.look entry).surplus,
      ¬∃ title, (title, index) ∈ (house.look entry).given
    rw [loaded_look, surplus_look, given_look]
    exact sound.unknown
  case distinct =>
    show ((house.look entry).loaded.map Prod.snd ++ (house.look entry).surplus).Nodup
    rw [loaded_look, surplus_look]
    exact sound.distinct
  case vacant =>
    intro index unknown
    rw [roster]
    refine sound.vacant index fun known => unknown ?_
    show ∃ title, (title, index) ∈ (house.look entry).given
    rw [given_look]
    exact known
  case rests =>
    intro index closed
    rw [roster]
    by_cases same : index = entry.2
    · subst same
      exact idle
    · exact sound.rests index (elsewhere same ▸ closed)
  case left =>
    rintro _ ⟨⟩
    refine ⟨nodup, fun other present => ?_⟩
    show other ∈ (house.look entry).entries
    rw [entries]
    exact List.mem_filter.mpr ⟨(remaining other present).1, decide_eq_true (remaining other present).2⟩

/-- An entry that a sweep looks at is closed and dropped if nobody watches, or stays. -/
theorem Sound.check (sound : house.Sound) {rest : List (String × Nat)} {pick : Nat}
    {entry : String × Nat} (held : house.sweeping = some rest) (found : rest[pick]? = some entry) :
    Sound { house.look entry with sweeping := some (rest.eraseIdx pick) } := by
  rcases sound.left rest held with ⟨nodup, subset⟩
  have split := perm_of_getElem? found
  rcases List.nodup_cons.mp (split.nodup_iff.mp nodup) with ⟨looked, others⟩
  cases idle : (house.service.channel entry.2).roster.isEmpty with
  | false =>
      rw [look_of_watched idle]
      refine sound.still rfl rfl rfl rfl (fun _ => Iff.rfl) ?_
      rintro _ ⟨⟩
      exact ⟨others, fun other member => subset (List.mem_of_mem_eraseIdx member)⟩
  | true =>
      refine sound.drop (subset (List.mem_of_getElem? found)) idle others fun other member => ?_
      refine ⟨subset (List.mem_of_mem_eraseIdx member), ?_⟩
      rintro rfl
      exact looked member

/-! ## All moves -/

theorem known_of_isGiven {index : Nat} (given : house.isGiven index = true) : house.Known index := by
  rcases List.any_eq_true.mp given with ⟨⟨name, other⟩, member, same⟩
  exact ⟨name, beq_iff_eq.mp same ▸ member⟩

theorem sweeping_of_free (free : house.free = true) : house.sweeping = none :=
  Option.isNone_iff_eq_none.mp free

theorem Sound.step (sound : house.Sound) (move : Move) : (house.step move).Sound := by
  cases move with
  | find name =>
      rw [House.step]
      split
      · split
        case h_1 index found => exact sound.give (sound.find?_eq_some_iff.mp found)
        case h_2 => exact sound
      · exact sound
  | seek name =>
      rw [House.step]
      split
      · split
        case h_1 index found => exact sound.give (sound.find?_eq_some_iff.mp found)
        case h_2 => exact sound.still rfl rfl rfl rfl (fun _ => Iff.rfl) sound.left
      · exact sound
  | load pick history active counter notices =>
      rw [House.step]
      split
      · exact sound.takeIn pick rfl rfl rfl
      · exact sound
  | giveUp pick => exact sound.still rfl rfl rfl rfl (fun _ => Iff.rfl) sound.left
  | insert pick =>
      rw [House.step]
      split
      case h_1 name index found =>
        split
        case isTrue free => exact sound.settle (sweeping_of_free free) found
        case isFalse => exact sound
      case h_2 => exact sound
  | discard pick =>
      rw [House.step]
      split
      case h_1 index found => exact sound.discard found
      case h_2 => exact sound
  | touch index touch =>
      rw [House.step]
      split
      case isTrue permitted =>
        exact sound.touch ((Bool.or_eq_true _ _ ▸ permitted).imp_right known_of_isGiven)
      case isFalse => exact sound
  | sweep =>
      rw [House.step]
      split
      · refine sound.still rfl rfl rfl rfl (fun _ => Iff.rfl) ?_
        rintro _ ⟨⟩
        exact ⟨List.Nodup.of_map Prod.fst sound.keys, List.Subset.refl _⟩
      · exact sound
  | check pick =>
      rw [House.step]
      split
      case h_1 rest held =>
        split
        case h_1 entry found => exact sound.check held found
        case h_2 => exact sound
      case h_2 => exact sound
  | release =>
      rw [House.step]
      split
      · exact sound.still rfl rfl rfl rfl (fun _ => Iff.rfl) nofun
      · exact sound
  | aside change => exact sound.still rfl rfl rfl rfl (fun _ => Iff.rfl) sound.left

theorem Sound.run (sound : house.Sound) (moves : List Move) : (house.run moves).Sound := by
  induction moves generalizing house with
  | nil => exact sound
  | cons move rest ih => exact ih (sound.step move)

end FrameChat.House
