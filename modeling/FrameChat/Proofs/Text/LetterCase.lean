import FrameChat.Text.Hex

/-!
# Hexadecimal text in any letter case

A hexadecimal digit has the same value as a capital and as a small letter, so that texts
that differ in their letter case alone stand for the same bytes.
-/

namespace FrameChat.Text.Hex

theorem toNat_toLower (char : Char) :
    char.toLower.toNat =
      if 65 ≤ char.toNat ∧ char.toNat ≤ 90 then char.toNat + 32 else char.toNat := by
  have capital : (char.val ≥ 'A'.val ∧ char.val ≤ 'Z'.val) ↔
      65 ≤ char.toNat ∧ char.toNat ≤ 90 := by
    simp only [ge_iff_le, UInt32.le_iff_toNat_le]
    rfl
  by_cases range : 65 ≤ char.toNat ∧ char.toNat ≤ 90
  · have lowered : char.toLower.val = char.val + 32 :=
      congrArg Char.val (dif_pos (capital.mpr range))
    have small : char.val.toNat + 32 < UInt32.size := by
      have bound : char.val.toNat ≤ 90 := range.2
      rw [UInt32.size]
      omega
    rw [if_pos range, Char.toNat, lowered, UInt32.toNat_add]
    exact Nat.mod_eq_of_lt small
  · have kept : char.toLower = char := dif_neg (mt capital.mp range)
    rw [if_neg range, kept]

/-- The value of a digit, by the number of the character. -/
theorem value?_eq (char : Char) :
    value? char =
      if 48 ≤ char.toNat ∧ char.toNat ≤ 57 then some (char.toNat - 48)
      else if 97 ≤ char.toNat ∧ char.toNat ≤ 102 then some (char.toNat - 97 + 10)
      else if 65 ≤ char.toNat ∧ char.toNat ≤ 70 then some (char.toNat - 65 + 10)
      else none := by
  simp only [value?, Char.le_def, UInt32.le_iff_toNat_le]
  rfl

theorem value?_toLower (char : Char) : value? char.toLower = value? char := by
  rw [value?_eq, value?_eq, toNat_toLower]
  by_cases capital : 65 ≤ char.toNat ∧ char.toNat ≤ 90
  · rw [if_pos capital]
    grind
  · rw [if_neg capital]

theorem decodeChars_map_toLower (chars : List Char) :
    decodeChars (chars.map Char.toLower) = decodeChars chars := by
  fun_induction decodeChars chars with
  | case1 => rfl
  | case2 digit => rfl
  | case3 high low rest ih =>
      rw [List.map_cons, List.map_cons, decodeChars, value?_toLower, value?_toLower, ih]

/-- The letter case does not matter. -/
theorem decode?_of_toLower {text other : String} (same : text.toLower = other.toLower) :
    decode? text = decode? other := by
  have lower (text : String) : decode? text.toLower = decode? text := by
    show decodeChars (text.map Char.toLower).toList = decodeChars text.toList
    rw [String.toList_map, decodeChars_map_toLower]
  rw [← lower text, same, lower other]

end FrameChat.Text.Hex
