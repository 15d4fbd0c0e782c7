import FrameChat.Net.Address
import Mathlib.Data.List.Basic

/-!
# What an address is called

The canonical text of an address tells which address it is.  An address of four octets has
no colon in its text, one of eight groups has, and among these only one that stands for four
octets has a dot.  What was left out between two colons are as many zero groups as are
missing: between the groups before and those after them.

* `toDigits_inj`: digits tell their number.
* `allGroups_text`: the groups in a text with colons.
* `text_injective`: two addresses with one text are the same.
-/

namespace FrameChat

namespace Text

/-! ## Digits -/

variable {base number : Nat} {char : Char}

theorem exists_of_mem_toDigits (several : 1 < base) (member : char ∈ Nat.toDigits base number) :
    ∃ digit < base, char = Nat.digitChar digit := by
  induction number using Nat.strongRecOn with
  | ind number ih =>
      rw [Nat.toDigits_eq_if several] at member
      split at member
      case isTrue small => exact ⟨number, small, List.mem_singleton.mp member⟩
      case isFalse large =>
        rcases List.mem_append.mp member with upper | last
        · exact ih (number / base) (Nat.div_lt_self (by omega) several) upper
        · exact ⟨number % base, Nat.mod_lt number (by omega), List.mem_singleton.mp last⟩

theorem digitChar_inj : ∀ first < 16, ∀ second < 16,
    Nat.digitChar first = Nat.digitChar second → first = second := by
  decide

/-- Digits in a base of at most sixteen tell their number. -/
theorem toDigits_inj (several : 1 < base) (few : base ≤ 16) {first second : Nat}
    (same : Nat.toDigits base first = Nat.toDigits base second) : first = second := by
  induction first using Nat.strongRecOn generalizing second with
  | ind first ih =>
      -- A number below the base has one digit; others have one more than their quotient, the last.
      rw [Nat.toDigits_eq_if several, Nat.toDigits_eq_if several (n := second)] at same
      have upper (number : Nat) : Nat.toDigits base number ≠ [] := Nat.toDigits_ne_nil
      split at same <;> split at same
      case isTrue.isTrue firstSmall secondSmall =>
        exact digitChar_inj first (by omega) second (by omega) (List.singleton_inj.mp same)
      case isTrue.isFalse =>
        exact absurd (List.append_eq_singleton_iff.mp same.symm) (by simp [upper])
      case isFalse.isTrue =>
        exact absurd (List.append_eq_singleton_iff.mp same) (by simp [upper])
      case isFalse.isFalse firstLarge secondLarge =>
        rcases List.append_inj' same rfl with ⟨quotients, remainders⟩
        have quotient := ih (first / base) (Nat.div_lt_self (by omega) several) quotients
        have remainder := digitChar_inj (first % base)
          (Nat.lt_of_lt_of_le (Nat.mod_lt _ (by omega)) few) (second % base)
          (Nat.lt_of_lt_of_le (Nat.mod_lt _ (by omega)) few) (List.singleton_inj.mp remainders)
        rw [← Nat.div_add_mod first base, quotient, remainder, Nat.div_add_mod]

end Text

namespace Net.Address

variable {groups left right : List UInt16} {char : Char}

/-- A group as it is written. -/
def groupChars (group : UInt16) : List Char :=
  Nat.toDigits 16 group.toNat

theorem groupChars_inj {first second : UInt16} (same : groupChars first = groupChars second) :
    first = second :=
  UInt16.toNat_inj.mp (Text.toDigits_inj (by decide) (by decide) same)

theorem groupChars_ne_nil (group : UInt16) : groupChars group ≠ [] :=
  Nat.toDigits_ne_nil

theorem of_mem_groupChars {group : UInt16} (member : char ∈ groupChars group) :
    char ≠ ':' ∧ char ≠ '.' := by
  have plain : ∀ digit < 16, Nat.digitChar digit ≠ ':' ∧ Nat.digitChar digit ≠ '.' := by decide
  rcases Text.exists_of_mem_toDigits (by decide) member with ⟨digit, below, rfl⟩
  exact plain digit below

/-! ## Groups with colons between them -/

/-- What stands in parts with a separator between them is the separator, or stands in a part. -/
theorem mem_of_mem_intercalate {separator : Char} {parts : List (List Char)}
    (member : char ∈ [separator].intercalate parts) :
    char = separator ∨ ∃ part ∈ parts, char ∈ part := by
  induction parts with
  | nil => cases member
  | cons part rest ih =>
      cases rest with
      | nil =>
          rw [List.intercalate_singleton] at member
          exact .inr ⟨part, List.mem_cons_self, member⟩
      | cons second rest =>
          rw [List.intercalate_cons_cons] at member
          rcases List.mem_append.mp member with first | others
          · rcases List.mem_append.mp first with inPart | between
            · exact .inr ⟨part, List.mem_cons_self, inPart⟩
            · exact .inl (List.mem_singleton.mp between)
          · rcases ih others with same | ⟨other, listed, inPart⟩
            · exact .inl same
            · exact .inr ⟨other, List.mem_cons_of_mem _ listed, inPart⟩

theorem toList_joined (groups : List UInt16) :
    (joined groups).toList = [':'].intercalate (groups.map groupChars) := by
  rw [joined, String.toList_intercalate, List.map_map]
  refine congrArg _ (List.map_congr_left fun group _ => ?_)
  exact String.toList_ofList

/-- The parts between the colons of joined groups: one empty part if there are none. -/
def fields (groups : List UInt16) : List (List Char) :=
  if groups = [] then [[]] else groups.map groupChars

theorem splitOn_joined (groups : List UInt16) :
    (joined groups).toList.splitOn ':' = fields groups := by
  rw [toList_joined, fields]
  split
  case isTrue none =>
    rw [none]
    rfl
  case isFalse some =>
    refine List.splitOn_intercalate ':' (fun part member colon => ?_) (by simpa using some)
    rcases List.mem_map.mp member with ⟨group, -, rfl⟩
    exact (of_mem_groupChars colon).1 rfl

theorem splitOn_shortened (left right : List UInt16) :
    (joined left ++ "::" ++ joined right).toList.splitOn ':' =
      fields left ++ [] :: fields right := by
  have chars : (joined left ++ "::" ++ joined right).toList =
      (joined left).toList ++ ':' :: ([] ++ ':' :: (joined right).toList) := by
    rw [String.toList_append, String.toList_append, List.append_assoc]
    rfl
  rw [chars, List.splitOn_append_cons_self, List.splitOn_append_cons_self, splitOn_joined,
    splitOn_joined]
  rfl

theorem ne_dot_of_mem_joined (member : char ∈ (joined groups).toList) : char ≠ '.' := by
  rw [toList_joined] at member
  rcases mem_of_mem_intercalate member with rfl | ⟨part, listed, inPart⟩
  · decide
  · rcases List.mem_map.mp listed with ⟨group, -, rfl⟩
    exact (of_mem_groupChars inPart).2

theorem colon_mem_joined (several : 2 ≤ groups.length) : ':' ∈ (joined groups).toList := by
  match groups, several with
  | first :: second :: rest, _ =>
      rw [toList_joined, List.map_cons, List.map_cons, List.intercalate_cons_cons]
      exact List.mem_append_left _ (List.mem_append_right _ List.mem_cons_self)

/-! ## Reading them -/

/-- The parts in front of the first empty one. -/
def front (parts : List (List Char)) : List (List Char) :=
  parts.takeWhile fun part => !part.isEmpty

/-- All groups in parts between colons: those at both ends, and zeros for what is missing. -/
def allGroups (parts : List (List Char)) : List (List Char) :=
  let before := front parts
  let after := (front parts.reverse).reverse
  if before.length = 8 then before
  else before ++ List.replicate (8 - before.length - after.length) (groupChars 0) ++ after

theorem front_append (groups : List UInt16) (rest : List (List Char)) :
    front (groups.map groupChars ++ rest) = groups.map groupChars ++ front rest := by
  refine List.takeWhile_append_of_pos fun part member => ?_
  rcases List.mem_map.mp member with ⟨group, -, rfl⟩
  simpa using groupChars_ne_nil group

theorem front_fields (groups : List UInt16) (rest : List (List Char)) :
    front (fields groups ++ [] :: rest) = groups.map groupChars := by
  rw [fields]
  split
  case isTrue none =>
    rw [none]
    rfl
  case isFalse =>
    rw [front_append]
    exact List.append_nil _

theorem reverse_fields (groups : List UInt16) :
    (fields groups).reverse = fields groups.reverse := by
  simp only [fields, List.reverse_eq_nil_iff]
  split
  · rfl
  · exact List.map_reverse.symm

theorem allGroups_joined (eight : groups.length = 8) :
    allGroups (fields groups) = groups.map groupChars := by
  have some : groups ≠ [] := by
    rintro rfl
    cases eight
  have whole : front (groups.map groupChars) = groups.map groupChars := by
    have appended := front_append groups []
    rwa [List.append_nil, show front [] = [] from rfl, List.append_nil] at appended
  rw [fields, if_neg some, allGroups, whole, if_pos (by rw [List.length_map, eight])]

theorem allGroups_shortened (left right : List UInt16) (few : left.length < 8) :
    allGroups (fields left ++ [] :: fields right) =
      (left ++ List.replicate (8 - left.length - right.length) 0 ++ right).map groupChars := by
  have turned : (fields left ++ [] :: fields right).reverse =
      fields right.reverse ++ [] :: fields left.reverse := by
    rw [List.reverse_append, List.reverse_cons, List.append_assoc, reverse_fields, reverse_fields]
    rfl
  rw [allGroups, turned, front_fields, front_fields, if_neg (by rw [List.length_map]; omega)]
  simp

/-! ## What is left out -/

theorem replicate_zeroRun (groups : List UInt16) :
    List.replicate (zeroRun groups) 0 ++ groups.drop (zeroRun groups) = groups := by
  induction groups with
  | nil => rfl
  | cons group rest ih =>
      by_cases zero : group = 0
      · have longer : zeroRun (group :: rest) = zeroRun rest + 1 := by
          rw [zeroRun, List.takeWhile_cons_of_pos (by simpa using zero)]
          rfl
        rw [longer, List.replicate_succ, List.drop_succ_cons, List.cons_append, ih, zero]
      · have none : zeroRun (group :: rest) = 0 := by
          rw [zeroRun, List.takeWhile_cons_of_neg (by simpa using zero)]
          rfl
        rw [none]
        rfl

theorem zeroRun_le (groups : List UInt16) : zeroRun groups ≤ groups.length :=
  (List.takeWhile_sublist _).length_le

/-- What is left out is a run of at least two zero groups. -/
theorem of_longestZeroRun {start length : Nat}
    (found : longestZeroRun groups = some (start, length)) :
    2 ≤ length ∧ length = zeroRun (groups.drop start) := by
  let IsRun (best : Option (Nat × Nat)) : Prop :=
    ∀ run, best = some run → 2 ≤ run.2 ∧ run.2 = zeroRun (groups.drop run.1)
  have all : IsRun (longestZeroRun groups) := by
    refine List.foldlRecOn _ _ nofun fun best known start _ run chosen => ?_
    dsimp only at chosen
    split at chosen
    case h_1 =>
      split at chosen
      case isTrue long =>
        cases chosen
        exact ⟨long, rfl⟩
      case isFalse => cases chosen
    case h_2 first longest =>
      have before := known (first, longest) rfl
      split at chosen
      case isTrue longer =>
        cases chosen
        exact ⟨Nat.le_trans before.1 (Nat.le_of_lt longer), rfl⟩
      case isFalse =>
        cases chosen
        exact before
  exact all (start, length) found

/-- A run that is left out stands for as many zeros as are missing. -/
theorem fill_longestZeroRun (eight : groups.length = 8) {start length : Nat}
    (found : longestZeroRun groups = some (start, length)) :
    (groups.take start).length < 8 ∧
      groups.take start ++
          List.replicate
            (8 - (groups.take start).length - (groups.drop (start + length)).length) 0 ++
          groups.drop (start + length) = groups := by
  rcases of_longestZeroRun found with ⟨two, run⟩
  have within := zeroRun_le (groups.drop start)
  rw [← run, List.length_drop] at within
  have missing :
      8 - (groups.take start).length - (groups.drop (start + length)).length = length := by
    rw [List.length_take, List.length_drop]
    omega
  refine ⟨by rw [List.length_take]; omega, ?_⟩
  rw [missing, List.append_assoc, ← List.drop_drop, run, replicate_zeroRun, List.take_append_drop]

/-! ## The texts of addresses -/

/-- Octets with dots between them. -/
def dotted (octets : List Nat) : List Char :=
  ['.'].intercalate (octets.map (Nat.toDigits 10))

theorem isDigit_of_mem_octets {octets : List Nat} {part : List Char}
    (listed : part ∈ octets.map (Nat.toDigits 10)) (member : char ∈ part) :
    char.isDigit = true := by
  rcases List.mem_map.mp listed with ⟨octet, -, rfl⟩
  exact Nat.isDigit_of_mem_toDigits (by decide) (by decide) member

theorem ne_colon_of_mem_dotted {octets : List Nat} (member : char ∈ dotted octets) :
    char ≠ ':' := by
  rintro rfl
  rcases mem_of_mem_intercalate member with same | ⟨part, listed, inPart⟩
  · cases same
  · cases isDigit_of_mem_octets listed inPart

theorem dot_mem_dotted {first second : Nat} {rest : List Nat} :
    '.' ∈ dotted (first :: second :: rest) := by
  rw [dotted, List.map_cons, List.map_cons, List.intercalate_cons_cons]
  exact List.mem_append_left _ (List.mem_append_right _ List.mem_cons_self)

theorem dotted_inj {first second : List Nat} (firstSome : first ≠ []) (secondSome : second ≠ [])
    (same : dotted first = dotted second) : first = second := by
  have split {octets : List Nat} (some : octets ≠ []) :
      (dotted octets).splitOn '.' = octets.map (Nat.toDigits 10) := by
    refine List.splitOn_intercalate '.' (fun part listed dot => ?_) (by simpa using some)
    cases isDigit_of_mem_octets listed dot
  have digits : Function.Injective (Nat.toDigits 10) := fun _ _ digits =>
    Text.toDigits_inj (by decide) (by decide) digits
  refine List.map_injective_iff.mpr digits ?_
  rw [← split firstSome, same, split secondSome]

theorem toList_dots (a b c d : Nat) :
    s!"{a}.{b}.{c}.{d}".toList = dotted [a, b, c, d] := by
  have dot : (toString ".").toList = ['.'] := rfl
  simp [dotted, List.intercalate, dot]

theorem toList_text_v4 (a b c d : UInt8) :
    (v4 a b c d).text.toList = dotted [a.toNat, b.toNat, c.toNat, d.toNat] :=
  toList_dots a.toNat b.toNat c.toNat d.toNat

/-- Groups that stand for four octets are written as such, and all others can be read off. -/
theorem toList_text_v6 (groups : Vector UInt16 8) :
    (∃ high low, groups.toList = [0, 0, 0, 0, 0, 0xFFFF, high, low] ∧
      (v6 groups).text.toList = "::ffff:".toList ++
        dotted [high.toNat / 256, high.toNat % 256, low.toNat / 256, low.toNat % 256]) ∨
      allGroups ((v6 groups).text.toList.splitOn ':') = groups.toList.map groupChars ∧
        ':' ∈ (v6 groups).text.toList ∧ '.' ∉ (v6 groups).text.toList := by
  have eight : groups.toList.length = 8 := groups.length_toList
  rw [text]
  split
  case h_1 high low same =>
    refine .inl ⟨high, low, same, ?_⟩
    rw [← toList_dots, ← String.toList_append]
    simp only [String.append_assoc]
    rfl
  case h_2 =>
    refine .inr ?_
    cases found : longestZeroRun groups.toList with
    | none =>
        refine ⟨?_, colon_mem_joined (by omega), fun dot => ne_dot_of_mem_joined dot rfl⟩
        dsimp only
        rw [splitOn_joined, allGroups_joined eight]
    | some run =>
        rcases run with ⟨start, length⟩
        rcases fill_longestZeroRun eight found with ⟨few, filled⟩
        dsimp only
        refine ⟨?_, ?_, ?_⟩
        · rw [splitOn_shortened, allGroups_shortened _ _ few, filled]
        · simp
        · intro dot
          rw [String.toList_append, String.toList_append] at dot
          rcases List.mem_append.mp dot with front | back
          · rcases List.mem_append.mp front with inLeft | between
            · exact ne_dot_of_mem_joined inLeft rfl
            · cases between with
              | tail _ rest => cases rest with
                | tail _ rest => cases rest
          · exact ne_dot_of_mem_joined back rfl

theorem colon_mem_text_v6 (groups : Vector UInt16 8) : ':' ∈ (v6 groups).text.toList := by
  rcases toList_text_v6 groups with ⟨high, low, -, chars⟩ | ⟨-, colon, -⟩
  · rw [chars]
    exact List.mem_append_left _ List.mem_cons_self
  · exact colon

theorem text_v4_ne_text_v6 (a b c d : UInt8) (groups : Vector UInt16 8) :
    (v4 a b c d).text ≠ (v6 groups).text := by
  intro same
  have colon := colon_mem_text_v6 groups
  rw [← same, toList_text_v4] at colon
  exact ne_colon_of_mem_dotted colon rfl

/-- A group is known by its two octets. -/
theorem eq_of_octets {first second : UInt16} (upper : first.toNat / 256 = second.toNat / 256)
    (lower : first.toNat % 256 = second.toNat % 256) : first = second := by
  apply UInt16.toNat_inj.mp
  omega

/-- The text of an address tells which one it is. -/
theorem text_injective : Function.Injective text := by
  intro first second same
  match first, second with
  | v4 a b c d, v4 a' b' c' d' =>
      have chars := congrArg String.toList same
      rw [toList_text_v4, toList_text_v4] at chars
      have octets := dotted_inj (by simp) (by simp) chars
      simp only [List.cons.injEq, UInt8.toNat_inj, and_true] at octets
      rcases octets with ⟨rfl, rfl, rfl, rfl⟩
      rfl
  | v4 a b c d, v6 groups => exact absurd same (text_v4_ne_text_v6 a b c d groups)
  | v6 groups, v4 a b c d => exact absurd same.symm (text_v4_ne_text_v6 a b c d groups)
  | v6 groups, v6 others =>
      have chars := congrArg String.toList same
      refine congrArg v6 (Vector.toList_inj.mp ?_)
      rcases toList_text_v6 groups with ⟨high, low, whole, text⟩ | ⟨read, -, dotless⟩ <;>
        rcases toList_text_v6 others with ⟨high', low', whole', text'⟩ | ⟨read', -, dotless'⟩
      · rw [text, text'] at chars
        have octets := dotted_inj (by simp) (by simp) (List.append_cancel_left chars)
        simp only [List.cons.injEq, and_true] at octets
        rcases octets with ⟨highUpper, highLower, lowUpper, lowLower⟩
        rw [whole, whole', eq_of_octets highUpper highLower, eq_of_octets lowUpper lowLower]
      · rw [← chars, text] at dotless'
        exact absurd (List.mem_append_right _ dot_mem_dotted) dotless'
      · rw [chars, text'] at dotless
        exact absurd (List.mem_append_right _ dot_mem_dotted) dotless
      · refine List.map_injective_iff.mpr (fun _ _ => groupChars_inj) ?_
        rw [← read, chars, read']

end Net.Address

end FrameChat
