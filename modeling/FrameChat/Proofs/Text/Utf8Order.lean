import FrameChat.Bytes
import FrameChat.Proofs.Archive.Order

/-!
# The order of texts and of their bytes

A table of byte strings keeps texts in the order of their UTF-8 bytes, a table of
texts in the order of their characters.  Both are the same order: of two
characters, the one with the larger number has the larger byte where their bytes
first differ, and neither is the beginning of the other (`diverges_utf8EncodeChar`).
The main statement is `compare_ofText`.
-/

namespace FrameChat.Bytes

/-- Two byte strings agree up to a place where the first has the smaller byte. -/
def Diverges (left right : Bytes) : Prop :=
  ∃ common first second leftRest rightRest,
    left = common ++ first :: leftRest ∧ right = common ++ second :: rightRest ∧ first < second

/-- Where byte strings diverge, nothing that follows can change their order. -/
theorem Diverges.compare_append {left right : Bytes} (diverges : Diverges left right)
    (leftRest rightRest : Bytes) : compare (left ++ leftRest) (right ++ rightRest) = .lt := by
  rcases diverges with ⟨common, first, second, _, _, rfl, rfl, below⟩
  rw [List.append_assoc, List.append_assoc, Bytes.compare_append _ _ rfl, Std.ReflOrd.compare_self,
    List.cons_append, List.cons_append, List.compare_cons_cons, Std.compare_eq_lt.mpr below]
  rfl

theorem ofNat_lt_ofNat {first second : Nat} (below : first < second) (isByte : second < 256) :
    UInt8.ofNat first < UInt8.ofNat second := by
  have bytes {value : Nat} (small : value < 256) : (UInt8.ofNat value).toNat = value := by
    simpa using Nat.mod_eq_of_lt small
  rw [UInt8.lt_iff_toNat_lt, bytes isByte, bytes (Nat.lt_trans below isByte)]
  exact below

/-- Byte strings diverge at their first bytes. -/
theorem Diverges.head {first second : Nat} (below : first < second) (isByte : second < 256)
    (leftRest rightRest : Bytes) :
    Diverges (UInt8.ofNat first :: leftRest) (UInt8.ofNat second :: rightRest) :=
  ⟨[], _, _, leftRest, rightRest, rfl, rfl, ofNat_lt_ofNat below isByte⟩

theorem Diverges.cons {left right : Bytes} (diverges : Diverges left right) (byte : UInt8) :
    Diverges (byte :: left) (byte :: right) := by
  rcases diverges with ⟨common, first, second, leftRest, rightRest, rfl, rfl, below⟩
  exact ⟨byte :: common, first, second, leftRest, rightRest, rfl, rfl, below⟩

/-- Where first bytes do not fall, what follows decides only if they agree. -/
theorem Diverges.digit {first second : Nat} (notAbove : first ≤ second) (isByte : second < 256)
    {leftRest rightRest : Bytes} (rest : first = second → Diverges leftRest rightRest) :
    Diverges (UInt8.ofNat first :: leftRest) (UInt8.ofNat second :: rightRest) := by
  rcases Nat.lt_or_eq_of_le notAbove with below | rfl
  · exact .head below isByte leftRest rightRest
  · exact (rest rfl).cons _

/-- The bytes of two characters diverge in the order of the characters. -/
theorem diverges_utf8EncodeChar {first second : Char} (below : first < second) :
    Diverges (String.utf8EncodeChar first) (String.utf8EncodeChar second) := by
  have less : first.val.toNat < second.val.toNat := below
  have last : second.val.toNat < 0x110000 := by
    have valid := second.valid
    simp only [UInt32.isValidChar, Nat.isValidChar] at valid
    omega
  simp only [String.utf8EncodeChar]
  generalize first.val.toNat = low at less
  generalize second.val.toNat = high at less last
  -- Lead bytes grow with the number of bytes; for one number, the bytes are digits of the value.
  split
  case isTrue =>
    split
    case isTrue => exact .head (by omega) (by omega) _ _
    case isFalse =>
      split
      case isTrue => exact .head (by omega) (by omega) _ _
      case isFalse => split <;> exact .head (by omega) (by omega) _ _
  case isFalse =>
    split
    case isTrue =>
      split
      case isTrue => omega
      case isFalse =>
        split
        case isTrue =>
          exact .digit (by omega) (by omega) fun _ => .head (by omega) (by omega) _ _
        case isFalse => split <;> exact .head (by omega) (by omega) _ _
    case isFalse =>
      split
      case isTrue =>
        rw [if_neg (by omega), if_neg (by omega)]
        split
        case isTrue =>
          exact .digit (by omega) (by omega) fun _ => .digit (by omega) (by omega) fun _ =>
            .head (by omega) (by omega) _ _
        case isFalse => exact .head (by omega) (by omega) _ _
      case isFalse =>
        rw [if_neg (by omega), if_neg (by omega), if_neg (by omega)]
        exact .digit (by omega) (by omega) fun _ => .digit (by omega) (by omega) fun _ =>
          .digit (by omega) (by omega) fun _ => .head (by omega) (by omega) _ _

theorem ofText_eq_flatMap (text : String) :
    ofText text = text.toList.flatMap String.utf8EncodeChar := by
  have bytes : text.toUTF8 = (text.toList.flatMap String.utf8EncodeChar).toByteArray :=
    calc
      text.toUTF8 = (String.ofList text.toList).toByteArray := by rw [String.ofList_toList]; rfl
      _ = (text.toList.flatMap String.utf8EncodeChar).toByteArray := String.toByteArray_ofList
  rw [ofText, bytes, List.data_toByteArray]

/-- Characters in lexicographic order have bytes in lexicographic order. -/
theorem compare_flatMap_of_lex {left right : List Char} (lex : List.Lex (· < ·) left right) :
    compare (left.flatMap String.utf8EncodeChar) (right.flatMap String.utf8EncodeChar) = .lt := by
  induction lex with
  | @nil char rest =>
      rw [List.flatMap_cons, List.flatMap_nil]
      cases bytes : String.utf8EncodeChar char with
      | nil => exact absurd bytes String.utf8EncodeChar_ne_nil
      | cons byte more => rfl
  | rel below =>
      rw [List.flatMap_cons, List.flatMap_cons]
      exact (diverges_utf8EncodeChar below).compare_append _ _
  | cons _ ih =>
      rw [List.flatMap_cons, List.flatMap_cons, compare_append _ _ rfl, Std.ReflOrd.compare_self]
      exact ih

/-- Texts are in the order of their UTF-8 bytes. -/
theorem compare_ofText (left right : String) :
    compare (ofText left) (ofText right) = compare left right := by
  have bytes {first second : String} (below : first < second) :
      compare (ofText first) (ofText second) = .lt := by
    rw [ofText_eq_flatMap, ofText_eq_flatMap]
    exact compare_flatMap_of_lex below
  cases texts : compare left right with
  | lt => exact bytes (compareOfLessAndEq_eq_lt.mp texts)
  | eq => rw [Std.compare_eq_iff_eq.mp texts, Std.ReflOrd.compare_self]
  | gt =>
      have reversed : compare right left = .lt := Std.OrientedCmp.gt_iff_lt.mp texts
      exact Std.OrientedCmp.gt_iff_lt.mpr (bytes (compareOfLessAndEq_eq_lt.mp reversed))

theorem ofText_injective : Function.Injective ofText := by
  intro left right same
  have equal : compare (ofText left) (ofText right) = .eq := Std.compare_eq_iff_eq.mpr same
  rw [compare_ofText] at equal
  exact Std.compare_eq_iff_eq.mp equal

end FrameChat.Bytes
