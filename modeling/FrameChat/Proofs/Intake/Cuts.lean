import FrameChat.Proofs.Intake.Texts

/-!
# Where a text is cut

A message loses its carriage returns, and what is left is cut.  The cut comes as late as the
limits allow: every beginning that keeps within them is a beginning of what is kept.  A text
without carriage returns that keeps within the limits is therefore not cut at all, and
cleaning what was cleaned changes nothing.

* `cleanMessage_eq_self_iff`: which texts are clean.
* `cleanMessage_longest`: what is kept is the longest beginning within the limits.
-/

namespace FrameChat.Intake

variable {maxBytes maxLines bytes lineFeeds : Nat} {raw : String}

/-- A text without its carriage returns. -/
def withoutReturns (raw : String) : String :=
  String.ofList (raw.toList.filter (· ≠ '\r'))

/-- A text that is not to be cut; one line is allowed even if the limit says none. -/
structure Within (maxBytes maxLines : Nat) (text : String) : Prop where
  bytes : text.utf8ByteSize ≤ maxBytes
  lineFeeds : text.toList.count '\n' < max maxLines 1

/-! ## The characters that are kept -/

theorem keepFitting_isPrefix (chars : List Char) :
    keepFitting maxBytes maxLines bytes lineFeeds chars <+: chars := by
  fun_induction keepFitting maxBytes maxLines bytes lineFeeds chars with
  | case1 => exact List.prefix_rfl
  | case2 => exact List.nil_prefix
  | case3 => exact List.nil_prefix
  | case4 bytes lineFeeds first rest more goesOn fits ih =>
      exact List.cons_prefix_cons.mpr ⟨rfl, ih⟩

/-- Characters are kept as long as they keep within the limits. -/
theorem isPrefix_keepFitting (chars : List Char) :
    ∀ part, part <+: chars → bytes + String.utf8Len part ≤ maxBytes →
      lineFeeds + part.count '\n' < max maxLines 1 →
      part <+: keepFitting maxBytes maxLines bytes lineFeeds chars := by
  fun_induction keepFitting maxBytes maxLines bytes lineFeeds chars with
  | case1 => exact fun part ahead _ _ => ahead
  | case2 bytes lineFeeds first rest more ends =>
      intro part ahead fits within
      rcases List.prefix_cons_iff.mp ahead with rfl | ⟨tail, rfl, -⟩
      · exact List.nil_prefix
      · -- Behind this line feed there would be a line too many.
        obtain ⟨rfl, full⟩ := ends
        have next : more = lineFeeds + 1 := if_pos rfl
        rw [List.count_cons_self] at within
        omega
  | case3 bytes lineFeeds first rest more goesOn wide =>
      intro part ahead fits within
      rcases List.prefix_cons_iff.mp ahead with rfl | ⟨tail, rfl, -⟩
      · exact List.nil_prefix
      · rw [String.utf8Len_cons] at fits
        omega
  | case4 bytes lineFeeds first rest more goesOn room ih =>
      intro part ahead fits within
      rcases List.prefix_cons_iff.mp ahead with rfl | ⟨tail, rfl, behind⟩
      · exact List.nil_prefix
      · rw [String.utf8Len_cons] at fits
        refine List.cons_prefix_cons.mpr ⟨rfl, ih tail behind (by omega) ?_⟩
        by_cases feed : first = '\n'
        · subst feed
          have next : more = lineFeeds + 1 := if_pos rfl
          rw [List.count_cons_self] at within
          omega
        · have next : more = lineFeeds := if_neg feed
          rw [List.count_cons_of_ne feed] at within
          omega

/-! ## Clean messages -/

theorem within_cleanMessage (raw : String) (maxBytes maxLines : Nat) :
    Within maxBytes maxLines (cleanMessage raw maxBytes maxLines) where
  bytes := utf8ByteSize_cleanMessage_le raw maxBytes maxLines
  lineFeeds := count_cleanMessage_lt raw maxBytes maxLines

theorem cleanMessage_isPrefix (raw : String) (maxBytes maxLines : Nat) :
    (cleanMessage raw maxBytes maxLines).toList <+: (withoutReturns raw).toList := by
  rw [cleanMessage, withoutReturns, String.toList_ofList, String.toList_ofList]
  exact keepFitting_isPrefix _

/-- Every beginning of the text that keeps within the limits is kept. -/
theorem isPrefix_cleanMessage {beginning : String}
    (ahead : beginning.toList <+: (withoutReturns raw).toList)
    (within : Within maxBytes maxLines beginning) :
    beginning.toList <+: (cleanMessage raw maxBytes maxLines).toList := by
  rw [withoutReturns, String.toList_ofList] at ahead
  rw [cleanMessage, String.toList_ofList]
  refine isPrefix_keepFitting _ _ ahead ?_ ?_
  · have bytes := within.bytes
    rw [← String.ofList_toList (s := beginning), String.utf8ByteSize_ofList] at bytes
    omega
  · have lineFeeds := within.lineFeeds
    omega

/-- A message is clean if it has no carriage returns and keeps within the limits. -/
theorem cleanMessage_eq_self_iff :
    cleanMessage raw maxBytes maxLines = raw ↔
      '\r' ∉ raw.toList ∧ Within maxBytes maxLines raw := by
  constructor
  · intro clean
    rw [← clean]
    exact ⟨not_mem_cleanMessage raw _ _, within_cleanMessage raw _ _⟩
  · rintro ⟨noReturns, within⟩
    have same : withoutReturns raw = raw := by
      rw [withoutReturns, List.filter_eq_self.mpr, String.ofList_toList]
      intro char member
      exact decide_eq_true fun isReturn => noReturns (isReturn ▸ member)
    have kept := cleanMessage_isPrefix raw maxBytes maxLines
    have whole : raw.toList <+: (cleanMessage raw maxBytes maxLines).toList :=
      isPrefix_cleanMessage (same.symm ▸ List.prefix_rfl) within
    rw [same] at kept
    exact String.toList_injective (kept.eq_of_length_le whole.length_le)

/--
What is kept of a message is the longest beginning of the text without carriage returns that
keeps within the limits.  It ends between two characters, and cleaning it again with the same
limits changes nothing.
-/
theorem cleanMessage_longest (raw : String) (maxBytes maxLines : Nat) :
    (cleanMessage raw maxBytes maxLines).toList <+: (withoutReturns raw).toList ∧
      Within maxBytes maxLines (cleanMessage raw maxBytes maxLines) ∧
      (∀ beginning : String, beginning.toList <+: (withoutReturns raw).toList →
        Within maxBytes maxLines beginning →
        beginning.toList <+: (cleanMessage raw maxBytes maxLines).toList) ∧
      String.Pos.Raw.IsValid (withoutReturns raw)
        ⟨(cleanMessage raw maxBytes maxLines).utf8ByteSize⟩ ∧
      cleanMessage (cleanMessage raw maxBytes maxLines) maxBytes maxLines =
        cleanMessage raw maxBytes maxLines := by
  have kept := cleanMessage_isPrefix raw maxBytes maxLines
  have within := within_cleanMessage raw maxBytes maxLines
  refine ⟨kept, within, fun _ => isPrefix_cleanMessage, ?_, ?_⟩
  · rcases kept with ⟨rest, whole⟩
    refine String.Pos.Raw.isValid_iff_exists_append.mpr
      ⟨cleanMessage raw maxBytes maxLines, String.ofList rest, ?_, rfl⟩
    rw [← String.ofList_toList (s := withoutReturns raw), ← whole, String.ofList_append,
      String.ofList_toList]
  · exact cleanMessage_eq_self_iff.mpr ⟨not_mem_cleanMessage raw maxBytes maxLines, within⟩

end FrameChat.Intake
