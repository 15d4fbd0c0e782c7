import FrameChat.Proofs.Archive.Deposits
import Mathlib.Data.List.Dedup

/-!
# The messages with the largest numbers

After every append an archive forgets what is beyond the limit of a channel.  A
message may come late, after others with larger numbers, and is then forgotten at
once, or takes the place of a newer record that should have stayed.  It does not
matter: to trim after every message is to trim once at the end
(`newest_place_newest`), and to place messages one after the other is to sort them
by number, with the last one under each number (`mem_arranged`).

* `largest_numbers_kept`: what is loaded of a channel are the messages with the
  largest numbers, whatever the order in which they came.
-/

namespace FrameChat

namespace Channel

theorem newest_of_length_le {limit : Nat} {log : List Message} (short : log.length ≤ limit) :
    newest limit log = log := by
  rw [newest, Nat.sub_eq_zero_of_le short, List.drop_zero]

theorem length_newest (limit : Nat) (log : List Message) :
    (newest limit log).length = min limit log.length := by
  rw [newest, List.length_drop]
  omega

/-- What is newest does not depend on what stands before enough of a log. -/
theorem newest_append_of_le {limit : Nat} {later : List Message} (enough : limit ≤ later.length)
    (earlier : List Message) : newest limit (earlier ++ later) = newest limit later := by
  have split : (earlier ++ later).length - limit = earlier.length + (later.length - limit) := by
    rw [List.length_append]
    omega
  rw [newest, split, List.drop_length_add_append, newest]

/-- What is not among the newest is below all of them. -/
theorem mem_newest_or_lt {log : List Message} (increasing : Message.Increasing log) (limit : Nat)
    {message : Message} (member : message ∈ log) :
    message ∈ newest limit log ∨
      limit < log.length ∧ ∀ other ∈ newest limit log, message.id < other.id := by
  have split : log.take (log.length - limit) ++ newest limit log = log := List.take_append_drop _ _
  have ordered := (List.pairwise_append.mp (split.symm ▸ increasing)).2.2 message
  rcases List.mem_append.mp (split.symm ▸ member) with dropped | kept
  · have long : 0 < (log.take (log.length - limit)).length := List.length_pos_of_mem dropped
    rw [List.length_take] at long
    exact Or.inr ⟨by omega, ordered dropped⟩
  · exact Or.inl kept

end Channel

/-- Messages with increasing numbers have different ones. -/
theorem Message.Increasing.nodup_ids {messages : List Message}
    (increasing : Message.Increasing messages) : (messages.map Message.id).Nodup :=
  List.pairwise_map.mpr (increasing.imp UInt64.ne_of_lt)

namespace Archive

/-! ## Placing and trimming -/

theorem place_append_left {message : Message} {before : List Message}
    (above : ∀ other ∈ before, other.id < message.id) (after : List Message) :
    place message (before ++ after) = before ++ place message after := by
  induction before with
  | nil => rfl
  | cons head rest ih =>
      have headBelow : head.id < message.id := above head List.mem_cons_self
      rw [List.cons_append, place, if_neg (UInt64.lt_asymm headBelow),
        if_neg (UInt64.ne_of_lt headBelow).symm,
        ih fun other member => above other (List.mem_cons_of_mem head member), List.cons_append]

theorem place_append_right {message : Message} {after : List Message}
    (below : ∀ other ∈ after, message.id < other.id) (before : List Message) :
    place message (before ++ after) = place message before ++ after := by
  induction before with
  | nil =>
      cases after with
      | nil => rfl
      | cons head rest => exact if_pos (below head List.mem_cons_self)
  | cons head rest ih =>
      rw [List.cons_append, place, place, ih]
      split
      case isTrue => rfl
      case isFalse => split <;> rfl

theorem mem_place_iff {message other : Message} {messages : List Message}
    (increasing : Message.Increasing messages) :
    other ∈ place message messages ↔
      other = message ∨ other ∈ messages ∧ other.id ≠ message.id := by
  induction messages with
  | nil => simp [place]
  | cons head rest ih =>
      rcases List.pairwise_cons.mp increasing with ⟨headBelow, restIncreasing⟩
      rw [place]
      split
      case isTrue below =>
        have others : other ∈ head :: rest → other.id ≠ message.id := by
          intro member
          rcases List.mem_cons.mp member with rfl | later
          · exact (UInt64.ne_of_lt below).symm
          · exact (UInt64.ne_of_lt (UInt64.lt_trans below (headBelow other later))).symm
        rw [List.mem_cons, and_iff_left_of_imp others]
      case isFalse notBelow =>
        split
        case isTrue same =>
          have others : other ∈ rest → other.id ≠ message.id := fun later =>
            same ▸ (UInt64.ne_of_lt (headBelow other later)).symm
          rw [List.mem_cons, List.mem_cons, or_and_right, and_iff_left_of_imp others]
          refine or_congr_right (or_iff_right ?_).symm
          rintro ⟨rfl, differ⟩
          exact differ same.symm
        case isFalse differ =>
          have headStays : other = head → other.id ≠ message.id := fun here =>
            here ▸ Ne.symm differ
          rw [List.mem_cons, List.mem_cons, ih restIncreasing, or_and_right,
            and_iff_left_of_imp headStays, or_left_comm]

theorem length_le_length_place (message : Message) (messages : List Message) :
    messages.length ≤ (place message messages).length := by
  induction messages with
  | nil => exact Nat.zero_le _
  | cons head rest ih =>
      rw [place]
      split
      case isTrue => simp
      case isFalse =>
        split
        case isTrue => simp
        case isFalse => simpa using ih

/-- To trim before a message is placed makes no difference to what is left afterwards. -/
theorem newest_place_newest {messages : List Message} (increasing : Message.Increasing messages)
    (keep : Nat) (message : Message) :
    Channel.newest keep (place message (Channel.newest keep messages)) =
      Channel.newest keep (place message messages) := by
  by_cases short : messages.length ≤ keep
  · rw [Channel.newest_of_length_le short]
  · let before := messages.take (messages.length - keep)
    let after := Channel.newest keep messages
    have split : before ++ after = messages := List.take_append_drop _ _
    have full : after.length = keep := by
      rw [Channel.length_newest]
      omega
    have ordered : ∀ earlier ∈ before, ∀ later ∈ after, earlier.id < later.id :=
      (List.pairwise_append.mp (split.symm ▸ increasing)).2.2
    show Channel.newest keep (place message after) = _
    rw [← split]
    by_cases above : ∀ other ∈ before, other.id < message.id
    · -- The message goes among those that stay, which are as many as before or one more.
      have enough : keep ≤ (place message after).length :=
        full ▸ length_le_length_place message after
      rw [place_append_left above, Channel.newest_append_of_le enough]
    · -- The message goes among those that are forgotten, and is forgotten as well.
      push Not at above
      rcases above with ⟨other, member, notAbove⟩
      have below : ∀ later ∈ after, message.id < later.id := fun later present =>
        UInt64.lt_of_le_of_lt (UInt64.not_lt.mp notAbove) (ordered other member later present)
      rw [place_append_right below, Channel.newest_append_of_le (Nat.le_of_eq full.symm),
        show place message after = place message [] ++ after from place_append_right below [],
        Channel.newest_append_of_le (Nat.le_of_eq full.symm)]

/-! ## Messages in whatever order -/

/-- Messages that are placed one after the other. -/
def arranged (written : List Message) : List Message :=
  written.foldl (fun held message => place message held) []

/-- What was written last under a number. -/
def latestUnder (id : UInt64) (written : List Message) : Option Message :=
  (written.filter fun message => message.id = id).getLast?

theorem arranged_snoc (written : List Message) (message : Message) :
    arranged (written ++ [message]) = place message (arranged written) := by
  rw [arranged, List.foldl_append]
  rfl

theorem increasing_arranged (written : List Message) : Message.Increasing (arranged written) := by
  induction written using List.reverseRecOn with
  | nil => exact Message.Increasing.nil
  | append_singleton earlier message ih =>
      rw [arranged_snoc]
      exact increasing_place ih message

theorem latestUnder_snoc (id : UInt64) (written : List Message) (message : Message) :
    latestUnder id (written ++ [message]) =
      if message.id = id then some message else latestUnder id written := by
  rw [latestUnder, getLast?_filter_snoc, latestUnder]
  simp only [decide_eq_true_eq]

/-- Under each number stands what was written last under it. -/
theorem mem_arranged {written : List Message} {message : Message} :
    message ∈ arranged written ↔ latestUnder message.id written = some message := by
  induction written using List.reverseRecOn with
  | nil => simp [arranged, latestUnder]
  | append_singleton earlier last ih =>
      rw [arranged_snoc, mem_place_iff (increasing_arranged earlier), ih, latestUnder_snoc]
      by_cases same : last.id = message.id
      · rw [if_pos same, Option.some.injEq, eq_comm, or_iff_left]
        exact fun others => others.2 same.symm
      · rw [if_neg same, and_iff_left (Ne.symm same), or_iff_right]
        rintro rfl
        exact same rfl

theorem mem_of_latestUnder {written : List Message} {id : UInt64} {message : Message}
    (latest : latestUnder id written = some message) : message ∈ written ∧ message.id = id := by
  rcases mem_of_getLast?_filter latest with ⟨member, same⟩
  exact ⟨member, of_decide_eq_true same⟩

theorem mem_map_id_arranged {written : List Message} {id : UInt64} :
    id ∈ (arranged written).map Message.id ↔ id ∈ written.map Message.id := by
  rw [List.mem_map, List.mem_map]
  constructor
  · rintro ⟨message, member, rfl⟩
    exact ⟨message, (mem_of_latestUnder (mem_arranged.mp member)).1, rfl⟩
  · rintro ⟨message, member, rfl⟩
    obtain ⟨last, latest⟩ : ∃ last, latestUnder message.id written = some last :=
      exists_getLast?_filter member (decide_eq_true rfl)
    have here : last.id = message.id := (mem_of_latestUnder latest).2
    exact ⟨last, mem_arranged.mpr (here.symm ▸ latest), here⟩

/-- There are as many as there are numbers. -/
theorem length_arranged (written : List Message) :
    (arranged written).length = (written.map Message.id).dedup.length := by
  have distinct := (increasing_arranged written).nodup_ids
  have same : ((arranged written).map Message.id).Perm (written.map Message.id).dedup := by
    rw [List.perm_ext_iff_of_nodup distinct (List.nodup_dedup _)]
    intro id
    rw [mem_map_id_arranged, List.mem_dedup]
  rw [← same.length_eq, List.length_map]

/-- Of messages under different numbers each is the last under its own. -/
theorem mem_arranged_of_nodup {written : List Message}
    (distinct : (written.map Message.id).Nodup) {message : Message} :
    message ∈ arranged written ↔ message ∈ written := by
  constructor
  · intro member
    exact (mem_of_latestUnder (mem_arranged.mp member)).1
  · intro member
    have numbered := mem_map_id_arranged.mpr (List.mem_map_of_mem member)
    rcases List.mem_map.mp numbered with ⟨last, arrangedLast, same⟩
    have present := (mem_of_latestUnder (mem_arranged.mp arrangedLast)).1
    exact List.inj_on_of_nodup_map distinct present member same ▸ arrangedLast

/-- Messages under different numbers may be placed in any order. -/
theorem arranged_eq_of_perm {written reordered : List Message}
    (distinct : (written.map Message.id).Nodup) (same : reordered.Perm written) :
    arranged reordered = arranged written := by
  have stillDistinct : (reordered.map Message.id).Nodup :=
    (same.map Message.id).nodup_iff.mpr distinct
  have nodup (messages : List Message) : (arranged messages).Nodup :=
    List.Nodup.of_map Message.id (increasing_arranged messages).nodup_ids
  have perm : (arranged reordered).Perm (arranged written) := by
    rw [List.perm_ext_iff_of_nodup (nodup reordered) (nodup written)]
    intro message
    rw [mem_arranged_of_nodup distinct, mem_arranged_of_nodup stillDistinct, same.mem_iff]
  refine perm.eq_of_pairwise (fun first second _ _ below above => ?_)
    (increasing_arranged reordered) (increasing_arranged written)
  exact absurd above (UInt64.lt_asymm below)

/-! ## What is held and loaded -/

/-- The messages that deposits have for a channel, in the order of the deposits. -/
def writtenTo (channel : String) (deposits : List Deposit) : List Message :=
  (deposits.filter fun deposit => deposit.channel = channel).map Deposit.message

/-- With one limit a channel holds the newest of what was written to it, in the order of numbers. -/
theorem contentsAfter_eq {deposits : List Deposit} {channel : String} {keep : Nat}
    (constant : ∀ deposit ∈ deposits, deposit.channel = channel → deposit.keep = keep) :
    contentsAfter deposits channel =
      Channel.newest keep (arranged (writtenTo channel deposits)) := by
  induction deposits using List.reverseRecOn with
  | nil => exact List.drop_nil.symm
  | append_singleton earlier deposit ih =>
      have before := ih fun other member => constant other (List.mem_append_left _ member)
      rw [contentsAfter, List.foldl_append, List.foldl_cons, List.foldl_nil, ← contentsAfter]
      by_cases here : deposit.channel = channel
      · subst here
        have written : writtenTo deposit.channel (earlier ++ [deposit]) =
            writtenTo deposit.channel earlier ++ [deposit.message] := by
          simp [writtenTo]
        rw [Contents.add_same, before, constant deposit (by simp) rfl, written, arranged_snoc,
          newest_place_newest (increasing_arranged _)]
      · have written : writtenTo channel (earlier ++ [deposit]) = writtenTo channel earlier := by
          simp [writtenTo, here]
        rw [Contents.add_of_ne _ (Ne.symm here), before, written]

/--
Of messages that were written one after the other, those with the `keep` largest
numbers, in the order of numbers.
-/
structure Largest (keep : Nat) (written loaded : List Message) : Prop where
  increasing : Message.Increasing loaded
  /-- under each number stands what was written last under it -/
  latest : ∀ message ∈ loaded, latestUnder message.id written = some message
  /-- all numbers that were written, or as many of them as are kept -/
  count : loaded.length = min keep (written.map Message.id).dedup.length
  /-- a number that is left out is below all that are there -/
  above : ∀ other ∈ written, other.id ∉ loaded.map Message.id →
    ∀ message ∈ loaded, other.id < message.id

theorem largest_newest (keep : Nat) (written : List Message) :
    Largest keep written (Channel.newest keep (arranged written)) := by
  refine ⟨(increasing_arranged written).newest keep, fun message member => ?_, ?_, ?_⟩
  · exact mem_arranged.mp (mem_of_mem_newest member)
  · rw [Channel.length_newest, length_arranged]
  · intro other member absent message stays
    have numbered := mem_map_id_arranged.mpr (List.mem_map_of_mem (f := Message.id) member)
    rcases List.mem_map.mp numbered with ⟨last, present, same⟩
    rcases Channel.mem_newest_or_lt (increasing_arranged written) keep present with
      kept | ⟨-, newer⟩
    · exact absurd (same ▸ List.mem_map_of_mem kept) absent
    · exact same ▸ newer message stays

/--
Whatever is written to a channel, in any order and among appends to other channels,
under one limit: what is loaded afterwards are the messages with the largest numbers,
each as it was written last.  If the numbers are different, it does not depend on the
order in which the messages were written.
-/
theorem largest_numbers_kept
    {backend : Backend}
    (blank : backend.Blank)
    (deposits : List Deposit)
    (channel : String)
    (keep : Nat)
    (constant : ∀ deposit ∈ deposits, deposit.channel = channel → deposit.keep = keep)
    (fits : ∀ deposit ∈ deposits, deposit.channel = channel → deposit.message.Fits) :
    ∃ final loaded, backend.depositAll deposits = .ok final ∧
      final.load channel = .ok loaded ∧
      Largest keep (writtenTo channel deposits) loaded ∧
      (((writtenTo channel deposits).map Message.id).Nodup →
        ∀ reordered : List Deposit,
          (∀ deposit ∈ reordered, deposit.channel = channel → deposit.keep = keep) →
          (writtenTo channel reordered).Perm (writtenTo channel deposits) →
          ∃ other, backend.depositAll reordered = .ok other ∧
            other.load channel = .ok loaded) := by
  have writtenFits : ∀ message ∈ writtenTo channel deposits, message.Fits := by
    intro message member
    rcases List.mem_map.mp member with ⟨deposit, filtered, rfl⟩
    rcases List.mem_filter.mp filtered with ⟨present, here⟩
    exact fits deposit present (of_decide_eq_true here)
  have loadedFits : ∀ message ∈ Channel.newest keep (arranged (writtenTo channel deposits)),
      message.Fits := fun message member =>
    writtenFits message (mem_of_latestUnder (mem_arranged.mp (mem_of_mem_newest member))).1
  have loads {given : List Deposit} {after : Backend}
      (oneLimit : ∀ deposit ∈ given, deposit.channel = channel → deposit.keep = keep)
      (same : arranged (writtenTo channel given) = arranged (writtenTo channel deposits))
      (reflects : after.Reflects (contentsAfter given) (activesAfter given)) :
      after.load channel = .ok (Channel.newest keep (arranged (writtenTo channel deposits))) := by
    have held : contentsAfter given channel =
        Channel.newest keep (arranged (writtenTo channel deposits)) :=
      same ▸ contentsAfter_eq oneLimit
    rw [reflects.holds.load (held ▸ loadedFits), held]
  rcases Backend.exists_depositAll blank deposits with ⟨final, deposited, -, reflects⟩
  refine ⟨final, _, deposited, loads constant rfl reflects, largest_newest keep _, ?_⟩
  intro distinct reordered oneLimit perm
  rcases Backend.exists_depositAll blank reordered with ⟨other, otherDeposited, -, otherReflects⟩
  exact ⟨other, otherDeposited, loads oneLimit (arranged_eq_of_perm distinct perm) otherReflects⟩

/-- Of the three numbers in the hall one is written twice, and another comes too late to be kept. -/
def untimelyDeposits : List Deposit :=
  [⟨"hall", ⟨9, "ada", 3, .text, "third"⟩, 3, 2⟩,
    ⟨"hall", ⟨5, "bo", 2, .text, "second"⟩, 2, 2⟩,
    ⟨"attic", ⟨5, "bo", 2, .text, "elsewhere"⟩, 2, 7⟩,
    ⟨"hall", ⟨2, "ada", 1, .text, "first"⟩, 1, 2⟩,
    ⟨"hall", ⟨5, "bo", 4, .text, "second, again"⟩, 4, 2⟩]

theorem largest_numbers_kept_of_untimely :
    (∀ deposit ∈ untimelyDeposits, deposit.channel = "hall" → deposit.keep = 2) ∧
      (∀ deposit ∈ untimelyDeposits, deposit.channel = "hall" → deposit.message.Fits) ∧
      ∃ final loaded, (Backend.tables Tables.empty).depositAll untimelyDeposits = .ok final ∧
        final.load "hall" = .ok loaded ∧
        Largest 2 (writtenTo "hall" untimelyDeposits) loaded ∧
        loaded = [⟨5, "bo", 4, .text, "second, again"⟩, ⟨9, "ada", 3, .text, "third"⟩] := by
  have constant : ∀ deposit ∈ untimelyDeposits, deposit.channel = "hall" → deposit.keep = 2 := by
    decide
  have fits : ∀ deposit ∈ untimelyDeposits, deposit.channel = "hall" → deposit.message.Fits := by
    intro deposit member _
    simp only [untimelyDeposits, List.mem_cons, List.not_mem_nil, or_false] at member
    rcases member with rfl | rfl | rfl | rfl | rfl <;> exact ⟨by decide, by decide⟩
  rcases largest_numbers_kept .tables untimelyDeposits "hall" 2 constant fits with
    ⟨final, loaded, deposited, answer, largest, -⟩
  refine ⟨constant, fits, final, loaded, deposited, answer, largest, ?_⟩
  have evaluated : ((Backend.tables Tables.empty).depositAll untimelyDeposits).bind
      (·.load "hall") =
        .ok [⟨5, "bo", 4, .text, "second, again"⟩, ⟨9, "ada", 3, .text, "third"⟩] := by
    decide +kernel
  rw [deposited] at evaluated
  exact Except.ok.inj (answer.symm.trans evaluated)

end Archive

end FrameChat
