import FrameChat.Intake
import Mathlib.Data.List.TakeWhile

/-!
# Names and identities

Cleaning a name that is clean changes nothing, and what it leaves are at most so many
characters of those that a name may have.  The name of somebody who states none is made of
such characters as well; if thirteen of them are allowed it is a clean name.  An identity
is therefore cleaned as often as one likes.  The sign between an identity and an address in
a binding is none of those characters, so that a binding tells both.

* `cleanName_cleanName`, `cleanName_eq_self_iff`: clean names.
* `cleanName_identityOf`: an identity is a clean name.
* `binding_eq_iff`: what two bindings have in common.
-/

namespace FrameChat.Intake

variable {raw : String} {maxChars : Nat} {char : Char}

/-! ## Clean names -/

theorem mem_of_mem_cleanName (member : char ∈ (cleanName raw maxChars).toList) :
    char ∈ raw.toList ∧ isNameChar char = true := by
  rw [cleanName, String.toList_ofList] at member
  exact List.mem_filter.mp (List.mem_of_mem_take member)

theorem length_cleanName_le (raw : String) (maxChars : Nat) :
    (cleanName raw maxChars).length ≤ maxChars := by
  rw [cleanName, String.length_ofList]
  exact List.length_take_le _ _

/-- A name is clean if it is short enough and has no other characters. -/
theorem cleanName_eq_self_iff :
    cleanName raw maxChars = raw ↔
      raw.length ≤ maxChars ∧ ∀ char ∈ raw.toList, isNameChar char = true := by
  constructor
  · intro clean
    rw [← clean]
    exact ⟨length_cleanName_le raw maxChars, fun char member => (mem_of_mem_cleanName member).2⟩
  · rintro ⟨short, allowed⟩
    rw [← String.length_toList] at short
    rw [cleanName, List.filter_eq_self.mpr allowed, List.take_of_length_le short,
      String.ofList_toList]

theorem cleanName_cleanName (raw : String) (maxChars : Nat) :
    cleanName (cleanName raw maxChars) maxChars = cleanName raw maxChars :=
  cleanName_eq_self_iff.mpr
    ⟨length_cleanName_le raw maxChars, fun _ member => (mem_of_mem_cleanName member).2⟩

/-! ## The names of those who state none -/

theorem isNameChar_symbol (value : Nat) : isNameChar (Text.Base64.symbol value) = true := by
  by_cases small : value < 64
  · revert small
    revert value
    decide
  · rw [Text.Base64.symbol, if_neg (by omega), if_neg (by omega), if_neg (by omega),
      if_neg (by omega)]
    decide

theorem isNameChar_of_mem_encodeChars {bytes : Bytes}
    (member : char ∈ Text.Base64.encodeChars bytes) : isNameChar char = true := by
  fun_induction Text.Base64.encodeChars bytes with
  | case1 => cases member
  | case2 a bits =>
      simp only [List.mem_cons, List.not_mem_nil, or_false] at member
      rcases member with rfl | rfl <;> exact isNameChar_symbol _
  | case3 a b bits =>
      simp only [List.mem_cons, List.not_mem_nil, or_false] at member
      rcases member with rfl | rfl | rfl <;> exact isNameChar_symbol _
  | case4 a b c rest bits ih =>
      simp only [List.mem_cons] at member
      rcases member with rfl | rfl | rfl | rfl | later
      · exact isNameChar_symbol _
      · exact isNameChar_symbol _
      · exact isNameChar_symbol _
      · exact isNameChar_symbol _
      · exact ih later

theorem length_encodeChars_six {bytes : Bytes} (six : bytes.length = 6) :
    (Text.Base64.encodeChars bytes).length = 8 := by
  match bytes, six with
  | [_, _, _, _, _, _], _ => rfl

/-- Characters of the name of somebody who states none. -/
def addressIdentityLength : Nat := 13

theorem toList_addressIdentity (address : Net.Address) :
    (addressIdentity address).toList = ['a', 'n', 'o', 'n', '-'] ++
      Text.Base64.encodeChars ((Cipher.Sha256.digest (Bytes.ofText address.text)).take 6) := by
  rw [addressIdentity, String.toList_append, Text.Base64.encode]
  exact congrArg _ String.toList_ofList

theorem length_addressIdentity (address : Net.Address) :
    (addressIdentity address).length = addressIdentityLength := by
  have six : ((Cipher.Sha256.digest (Bytes.ofText address.text)).take 6).length = 6 := by
    rw [List.length_take, Cipher.Sha256.length_digest]
    rfl
  rw [← String.length_toList, toList_addressIdentity, List.length_append,
    length_encodeChars_six six]
  rfl

theorem isNameChar_of_mem_addressIdentity {address : Net.Address}
    (member : char ∈ (addressIdentity address).toList) : isNameChar char = true := by
  have allowed : ['a', 'n', 'o', 'n', '-'].all isNameChar = true := by decide
  rw [toList_addressIdentity] at member
  rcases List.mem_append.mp member with inPrefix | inDigest
  · exact List.all_eq_true.mp allowed char inPrefix
  · exact isNameChar_of_mem_encodeChars inDigest

/-! ## Identities -/

/-- The identity of someone who states a name or none, under given limits. -/
def Limits.identityOf (limits : Limits) (stated : Option String) (address : Net.Address) : String :=
  match stated.map fun name => cleanName name limits.maxIdentityChars with
  | some identity => if identity.isEmpty then addressIdentity address else identity
  | none => addressIdentity address

theorem resolvedIdentity_eq (intake : Intake) (stated : Option String) (address : Net.Address) :
    intake.resolvedIdentity stated address = intake.limits.identityOf stated address := rfl

section

variable {limits : Limits} {stated : Option String} {address other : Net.Address}

theorem Limits.identityOf_cases (limits : Limits) (stated : Option String)
    (address : Net.Address) :
    limits.identityOf stated address = addressIdentity address ∨
      ∃ name, limits.identityOf stated address = cleanName name limits.maxIdentityChars := by
  cases stated with
  | none => exact .inl rfl
  | some name =>
      rw [identityOf, Option.map_some]
      dsimp only
      split
      · exact .inl rfl
      · exact .inr ⟨name, rfl⟩

/-- If there is room for the name of somebody who states none, every identity is clean. -/
theorem cleanName_identityOf (roomy : addressIdentityLength ≤ limits.maxIdentityChars) :
    cleanName (limits.identityOf stated address) limits.maxIdentityChars =
      limits.identityOf stated address := by
  rcases limits.identityOf_cases stated address with same | ⟨name, same⟩
  · rw [same, cleanName_eq_self_iff, length_addressIdentity]
    exact ⟨roomy, fun char member => isNameChar_of_mem_addressIdentity member⟩
  · rw [same, cleanName_cleanName]

theorem isNameChar_of_mem_identityOf (member : char ∈ (limits.identityOf stated address).toList) :
    isNameChar char = true := by
  rcases limits.identityOf_cases stated address with same | ⟨name, same⟩
  · exact isNameChar_of_mem_addressIdentity (same ▸ member)
  · rw [same] at member
    exact (mem_of_mem_cleanName member).2

/-! ## Bindings -/

theorem toList_binding (identity : String) (address : Net.Address) :
    (binding identity address).toList = identity.toList ++ '@' :: address.text.toList := by
  rw [binding, String.toList_append, String.toList_append, List.append_assoc]
  rfl

/-- The identity in a binding goes up to the first sign that no name has. -/
theorem takeWhile_binding {identity : String}
    (names : ∀ char ∈ identity.toList, isNameChar char = true) (address : Net.Address) :
    (binding identity address).toList.takeWhile isNameChar = identity.toList := by
  have sign : isNameChar '@' = false := by decide
  rw [toList_binding, List.takeWhile_append_of_pos names,
    List.takeWhile_cons_of_neg (by rw [sign]; exact Bool.false_ne_true), List.append_nil]

theorem binding_eq_iff {first second : String}
    (firstNames : ∀ char ∈ first.toList, isNameChar char = true)
    (secondNames : ∀ char ∈ second.toList, isNameChar char = true) :
    binding first address = binding second other ↔
      first = second ∧ address.text = other.text := by
  constructor
  · intro same
    have identities : first = second := by
      rw [← String.toList_inj, ← takeWhile_binding firstNames address, same,
        takeWhile_binding secondNames other]
    have chars := congrArg String.toList same
    rw [toList_binding, toList_binding, identities] at chars
    refine ⟨identities, String.toList_inj.mp ?_⟩
    exact (List.cons.inj (List.append_cancel_left chars)).2
  · rintro ⟨rfl, text⟩
    rw [binding, binding, text]

end

end FrameChat.Intake
