import FrameChat.Message

/-!
# Message numbers

A message number is made of three fields: from bit 31 up the seconds since numbers began,
below them fifteen bits of the name hash, and in the lowest sixteen bits those of a counter.
As long as the seconds take no more than 33 bits nothing is lost: no bit belongs to two
fields, each field can be read back, and for one name hash the numbers are in the order of
the seconds and, within a second, of the counters.

* `toNat_clampedSeconds`: the seconds, computed in 64 bits.
* `toNat_idFor`: a number as the sum of its fields.
* `number_fields`: what can be read from a number, and the order of two numbers.
-/

namespace FrameChat.Message

variable {time : Seconds}

/-! ## Seconds in 64 bits -/

/-- The difference of two numbers of 64 bits, or the end of the range that it is beyond. -/
def saturatingSub (first second : Int64) : Int64 :=
  Int64.ofIntClamp (first.toInt - second.toInt)

/-- Seconds since numbers began, as 64 bits hold them; earlier times count as zero. -/
def clampedSeconds (time : Seconds) : UInt64 :=
  (max (saturatingSub time (Int64.ofInt idEpoch)) 0).toUInt64

theorem toNat_toUInt64_max_zero (number : Int64) :
    (max number 0).toUInt64.toNat = number.toInt.toNat := by
  have split : max number 0 = if number ≤ 0 then 0 else number := rfl
  rw [split]
  split
  case isTrue negative =>
    rw [Int64.le_iff_toInt_le, Int64.toInt_zero] at negative
    rw [Int.toNat_of_nonpos negative]
    rfl
  case isFalse positive =>
    rw [Int64.le_iff_toInt_le, Int64.toInt_zero] at positive
    have nonnegative : 0 ≤ number := by
      rw [Int64.le_iff_toInt_le, Int64.toInt_zero]
      omega
    exact Int64.toNat_toUInt64_of_le nonnegative

/-- The seconds are the same in 64 bits and without a bound. -/
theorem toNat_clampedSeconds (time : Seconds) : (clampedSeconds time).toNat = idSeconds time := by
  have start : (Int64.ofInt idEpoch).toInt = 1600000000 := by decide
  have lowest : Int64.minValue.toInt = -9223372036854775808 := by decide
  have late := time.toInt_le
  rw [clampedSeconds, toNat_toUInt64_max_zero, saturatingSub, start, idSeconds, idEpoch]
  by_cases within : Int64.minValue.toInt ≤ time.toInt - 1600000000
  · rw [Int64.toInt_ofIntClamp within (by omega)]
  · rw [Int64.ofIntClamp, dif_neg within]
    omega

theorem ofNat_idSeconds (time : Seconds) : UInt64.ofNat (idSeconds time) = clampedSeconds time := by
  rw [← toNat_clampedSeconds, UInt64.ofNat_toNat]

/-! ## Fields -/

/-- The seconds at their place in a number. -/
def secondsField (time : Seconds) : UInt64 :=
  clampedSeconds time <<< 31

/-- The bits of the name hash at their place in a number. -/
def hashField (nameHash : UInt32) : UInt64 :=
  (nameHash &&& 0x7FFF).toUInt64 <<< 16

/-- The bits of the counter at their place in a number. -/
def counterField (counter : UInt64) : UInt64 :=
  counter &&& 0xFFFF

theorem idFor_eq_fields (time : Seconds) (nameHash : UInt32) (counter : UInt64) :
    idFor time nameHash counter =
      secondsField time ||| hashField nameHash ||| counterField counter := by
  rw [idFor, ofNat_idSeconds, secondsField, hashField, counterField]

theorem toNat_counterField (counter : UInt64) :
    (counterField counter).toNat = counter.toNat % 0x10000 := by
  rw [counterField, UInt64.toNat_and]
  exact Nat.and_two_pow_sub_one_eq_mod _ 16

theorem toNat_hashBits (nameHash : UInt32) :
    (nameHash &&& 0x7FFF).toUInt64.toNat = nameHash.toNat % 0x8000 := by
  rw [UInt32.toNat_toUInt64, UInt32.toNat_and]
  exact Nat.and_two_pow_sub_one_eq_mod _ 15

theorem toNat_hashField (nameHash : UInt32) :
    (hashField nameHash).toNat = (nameHash.toNat % 0x8000) <<< 16 := by
  rw [hashField, UInt64.toNat_shiftLeft, toNat_hashBits]
  refine Nat.mod_eq_of_lt ?_
  rw [show (16 : UInt64).toNat % 64 = 16 from rfl, Nat.shiftLeft_eq]
  omega

theorem idSeconds_lt (within : clampedSeconds time < (1 : UInt64) <<< 33) :
    idSeconds time < 0x200000000 := by
  have limit : ((1 : UInt64) <<< 33).toNat = 0x200000000 := by decide
  rwa [UInt64.lt_iff_toNat_lt, toNat_clampedSeconds, limit] at within

theorem toNat_secondsField (within : clampedSeconds time < (1 : UInt64) <<< 33) :
    (secondsField time).toNat = idSeconds time <<< 31 := by
  have small := idSeconds_lt within
  rw [secondsField, UInt64.toNat_shiftLeft, toNat_clampedSeconds]
  refine Nat.mod_eq_of_lt ?_
  rw [show (31 : UInt64).toNat % 64 = 31 from rfl, Nat.shiftLeft_eq]
  omega

/-- The two lower fields of a number. -/
theorem hashField_lor_counterField (nameHash : UInt32) (counter : UInt64) :
    (hashField nameHash).toNat ||| (counterField counter).toNat =
      nameHash.toNat % 0x8000 * 0x10000 + counter.toNat % 0x10000 := by
  have low : counter.toNat % 0x10000 < 2 ^ 16 := Nat.mod_lt _ (by decide)
  rw [toNat_hashField, toNat_counterField, ← Nat.shiftLeft_add_eq_or_of_lt low, Nat.shiftLeft_eq]

/-- A number is the sum of its fields. -/
theorem toNat_idFor (within : clampedSeconds time < (1 : UInt64) <<< 33) (nameHash : UInt32)
    (counter : UInt64) :
    (idFor time nameHash counter).toNat =
      idSeconds time * 0x80000000 + nameHash.toNat % 0x8000 * 0x10000 +
        counter.toNat % 0x10000 := by
  have low : nameHash.toNat % 0x8000 * 0x10000 + counter.toNat % 0x10000 < 2 ^ 31 := by omega
  rw [idFor_eq_fields, UInt64.toNat_or, UInt64.toNat_or, Nat.or_assoc,
    hashField_lor_counterField, toNat_secondsField within,
    ← Nat.shiftLeft_add_eq_or_of_lt low, Nat.shiftLeft_eq, ← Nat.add_assoc]

/-! ## No bit belongs to two fields -/

/-- What was moved up has no bit in common with what is below. -/
theorem shiftLeft_and_of_lt {places low : Nat} (small : low < Nat.pow 2 places) (high : Nat) :
    high <<< places &&& low = 0 := by
  refine Nat.eq_of_testBit_eq fun place => ?_
  rw [Nat.testBit_and, Nat.testBit_shiftLeft, Nat.zero_testBit]
  by_cases above : places ≤ place
  · have none : low.testBit place = false :=
      Nat.testBit_lt_two_pow (Nat.lt_of_lt_of_le small (Nat.pow_le_pow_right (by decide) above))
    rw [none, Bool.and_false]
  · rw [decide_eq_false above, Bool.false_and, Bool.false_and]

theorem and_eq_zero {upper lower : UInt64} {high places : Nat}
    (moved : upper.toNat = high <<< places) (below : lower.toNat < Nat.pow 2 places) :
    upper &&& lower = 0 := by
  rw [← UInt64.toNat_inj, UInt64.toNat_and, moved, shiftLeft_and_of_lt below]
  rfl

theorem secondsField_and_hashField (within : clampedSeconds time < (1 : UInt64) <<< 33)
    (nameHash : UInt32) : secondsField time &&& hashField nameHash = 0 := by
  refine and_eq_zero (toNat_secondsField within) ?_
  rw [toNat_hashField, Nat.shiftLeft_eq, show Nat.pow 2 31 = 0x80000000 from rfl]
  omega

theorem secondsField_and_counterField (within : clampedSeconds time < (1 : UInt64) <<< 33)
    (counter : UInt64) : secondsField time &&& counterField counter = 0 := by
  refine and_eq_zero (toNat_secondsField within) ?_
  rw [toNat_counterField, show Nat.pow 2 31 = 0x80000000 from rfl]
  omega

theorem hashField_and_counterField (nameHash : UInt32) (counter : UInt64) :
    hashField nameHash &&& counterField counter = 0 := by
  refine and_eq_zero (toNat_hashField nameHash) ?_
  rw [toNat_counterField, show Nat.pow 2 16 = 0x10000 from rfl]
  omega

/-! ## Reading fields, and the order of numbers -/

theorem idFor_shiftRight (within : clampedSeconds time < (1 : UInt64) <<< 33) (nameHash : UInt32)
    (counter : UInt64) : idFor time nameHash counter >>> 31 = clampedSeconds time := by
  rw [← UInt64.toNat_inj, UInt64.toNat_shiftRight, toNat_idFor within, toNat_clampedSeconds,
    show (31 : UInt64).toNat % 64 = 31 from rfl, Nat.shiftRight_eq_div_pow]
  omega

theorem idFor_shiftRight_and (within : clampedSeconds time < (1 : UInt64) <<< 33)
    (nameHash : UInt32) (counter : UInt64) :
    idFor time nameHash counter >>> 16 &&& 0x7FFF = (nameHash &&& 0x7FFF).toUInt64 := by
  have mask (value : Nat) : value &&& (0x7FFF : UInt64).toNat = value % 0x8000 :=
    Nat.and_two_pow_sub_one_eq_mod value 15
  rw [← UInt64.toNat_inj, UInt64.toNat_and, UInt64.toNat_shiftRight, toNat_idFor within,
    toNat_hashBits, mask, show (16 : UInt64).toNat % 64 = 16 from rfl, Nat.shiftRight_eq_div_pow]
  omega

theorem idFor_and (within : clampedSeconds time < (1 : UInt64) <<< 33) (nameHash : UInt32)
    (counter : UInt64) : idFor time nameHash counter &&& 0xFFFF = counter &&& 0xFFFF := by
  have same : counterField (idFor time nameHash counter) = counterField counter := by
    rw [← UInt64.toNat_inj, toNat_counterField, toNat_counterField, toNat_idFor within]
    omega
  exact same

theorem idFor_lt_idFor_iff {earlier later : Seconds}
    (earlierWithin : clampedSeconds earlier < (1 : UInt64) <<< 33)
    (laterWithin : clampedSeconds later < (1 : UInt64) <<< 33) (nameHash : UInt32)
    (first second : UInt64) :
    idFor earlier nameHash first < idFor later nameHash second ↔
      clampedSeconds earlier < clampedSeconds later ∨
        clampedSeconds earlier = clampedSeconds later ∧
          first % 0x10000 < second % 0x10000 := by
  rw [UInt64.lt_iff_toNat_lt, UInt64.lt_iff_toNat_lt, UInt64.lt_iff_toNat_lt, ← UInt64.toNat_inj,
    toNat_idFor earlierWithin, toNat_idFor laterWithin, toNat_clampedSeconds,
    toNat_clampedSeconds, UInt64.toNat_mod, UInt64.toNat_mod,
    show (0x10000 : UInt64).toNat = 0x10000 from rfl]
  omega

/--
Numbers for times that take no more than 33 bits of seconds are made of three fields without a
common bit, each of which can be read from them.  For one name hash they are ordered by their
seconds first and then by the lowest sixteen bits of their counters.
-/
theorem number_fields {earlier later : Seconds}
    (earlierWithin : clampedSeconds earlier < (1 : UInt64) <<< 33)
    (laterWithin : clampedSeconds later < (1 : UInt64) <<< 33) (nameHash : UInt32)
    (first second : UInt64) :
    (idFor earlier nameHash first =
        secondsField earlier ||| hashField nameHash ||| counterField first ∧
      secondsField earlier &&& hashField nameHash = 0 ∧
      secondsField earlier &&& counterField first = 0 ∧
      hashField nameHash &&& counterField first = 0) ∧
    (idFor earlier nameHash first >>> 31 = clampedSeconds earlier ∧
      idFor earlier nameHash first >>> 16 &&& 0x7FFF = (nameHash &&& 0x7FFF).toUInt64 ∧
      idFor earlier nameHash first &&& 0xFFFF = first &&& 0xFFFF) ∧
    (idFor earlier nameHash first < idFor later nameHash second ↔
      clampedSeconds earlier < clampedSeconds later ∨
        clampedSeconds earlier = clampedSeconds later ∧
          first % 0x10000 < second % 0x10000) :=
  ⟨⟨idFor_eq_fields earlier nameHash first, secondsField_and_hashField earlierWithin nameHash,
      secondsField_and_counterField earlierWithin first,
      hashField_and_counterField nameHash first⟩,
    ⟨idFor_shiftRight earlierWithin nameHash first,
      idFor_shiftRight_and earlierWithin nameHash first, idFor_and earlierWithin nameHash first⟩,
    idFor_lt_idFor_iff earlierWithin laterWithin nameHash first second⟩

/-- The subtraction of the start stops at the end of the range for the first of these times. -/
theorem number_fields_of_first_and_last :
    clampedSeconds Int64.minValue < (1 : UInt64) <<< 33 ∧
      clampedSeconds 10189934591 < (1 : UInt64) <<< 33 ∧
      idFor Int64.minValue 0xFFFF8001 0x1FFFF >>> 31 = 0 ∧
      idFor Int64.minValue 0xFFFF8001 0x1FFFF >>> 16 &&& 0x7FFF = 1 ∧
      idFor Int64.minValue 0xFFFF8001 0x1FFFF < idFor 10189934591 0xFFFF8001 0 := by
  have firstWithin : clampedSeconds Int64.minValue < (1 : UInt64) <<< 33 := by decide
  have lastWithin : clampedSeconds 10189934591 < (1 : UInt64) <<< 33 := by decide
  rcases number_fields firstWithin lastWithin 0xFFFF8001 0x1FFFF 0 with
    ⟨-, ⟨seconds, hash, -⟩, order⟩
  exact ⟨firstWithin, lastWithin, seconds.trans (by decide), hash.trans (by decide),
    order.mpr (.inl (by decide))⟩

end FrameChat.Message
