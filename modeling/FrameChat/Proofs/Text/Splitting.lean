import Mathlib.Data.String.Basic

/-!
# Splitting at a character

A text that is split at a separator of one character falls into the runs between
the places at which the character stands.  Paths, queries and forms are taken apart
in this way.
-/

namespace FrameChat.Text

open String (ofList utf8Len)

/--
Splitting goes through a text with the run since the last separator in hand: `before` is
what lies before the run, and `rest` is still to be read.
-/
theorem splitOnAux_singleton (separator : Char) (before run rest : List Char)
    (found : List String) :
    (ofList (before ++ run ++ rest)).splitOnAux (ofList [separator]) ⟨utf8Len before⟩
        ⟨utf8Len before + utf8Len run⟩ 0 found =
      found.reverse ++ (List.splitOnPPrepend (· == separator) rest run.reverse).map ofList := by
  induction rest generalizing before run found with
  | nil =>
      have ended : String.Pos.Raw.atEnd (ofList (before ++ run ++ []))
          ⟨utf8Len before + utf8Len run⟩ = true := by
        rw [String.atEnd_iff, String.rawEndPos_ofList]
        simp
      rw [String.splitOnAux, if_pos ended, String.extract_of_valid]
      simp
  | cons char rest ih =>
      have position : utf8Len before + utf8Len run = utf8Len (before ++ run) := by simp
      have going : ¬String.Pos.Raw.atEnd (ofList (before ++ run ++ char :: rest))
          ⟨utf8Len before + utf8Len run⟩ = true := by
        have positive := Char.utf8Size_pos char
        rw [String.atEnd_iff, String.rawEndPos_ofList, String.Pos.Raw.mk_le_mk,
          String.utf8Len_append, ← position, String.utf8Len_cons]
        omega
      have here : String.Pos.Raw.get (ofList (before ++ run ++ char :: rest))
          ⟨utf8Len before + utf8Len run⟩ = char := by
        rw [position, String.get_of_valid]
        rfl
      have onward : String.Pos.Raw.next (ofList (before ++ run ++ char :: rest))
          ⟨utf8Len before + utf8Len run⟩ = ⟨utf8Len before + utf8Len run + char.utf8Size⟩ := by
        rw [position, String.next_of_valid]
      have sought : String.Pos.Raw.get (ofList [separator]) 0 = separator :=
        String.get_of_valid [] [separator]
      have through : String.Pos.Raw.next (ofList [separator]) 0 = ⟨separator.utf8Size⟩ := by
        have stepped := String.next_of_valid [] separator []
        rwa [String.utf8Len_nil, Nat.zero_add] at stepped
      rw [String.splitOnAux, if_neg going, here, sought]
      by_cases same : char = separator
      · rw [if_pos (beq_iff_eq.mpr same)]
        have ended : String.Pos.Raw.atEnd (ofList [separator]) ⟨separator.utf8Size⟩ = true := by
          rw [String.atEnd_iff, String.rawEndPos_ofList]
          simp
        have cutting : String.Pos.Raw.unoffsetBy
            ⟨utf8Len before + utf8Len run + char.utf8Size⟩ ⟨separator.utf8Size⟩ =
            ⟨utf8Len before + utf8Len run⟩ := by
          rw [same]
          exact congrArg String.Pos.Raw.mk (Nat.add_sub_cancel ..)
        dsimp only
        rw [through, onward, if_pos ended, cutting, String.extract_of_valid]
        have rest := ih (before ++ run ++ [char]) [] (ofList run :: found)
        simp only [String.utf8Len_append, String.utf8Len_cons, String.utf8Len_nil, Nat.zero_add,
          Nat.add_zero, List.append_assoc, List.append_nil,
          List.singleton_append, List.reverse_nil, ← Nat.add_assoc] at rest
        rw [List.append_assoc, rest, List.splitOnPPrepend_cons_eq_if,
          if_pos (beq_iff_eq.mpr same)]
        simp
      · rw [if_neg (by simpa using same)]
        have staying : String.Pos.Raw.unoffsetBy ⟨utf8Len before + utf8Len run⟩ 0 =
            ⟨utf8Len before + utf8Len run⟩ := rfl
        have rest := ih before (run ++ [char]) found
        simp only [String.utf8Len_append, String.utf8Len_cons, String.utf8Len_nil, Nat.zero_add,
          List.append_assoc, List.singleton_append, ← Nat.add_assoc, List.reverse_append,
          List.reverse_singleton] at rest
        rw [staying, onward, List.append_assoc, rest, List.splitOnPPrepend_cons_eq_if,
          if_neg (by simpa using same)]

/-- Splitting a text is splitting the list of its characters. -/
theorem splitOn_singleton (text : String) (separator : Char) :
    text.splitOn (ofList [separator]) = (text.toList.splitOn separator).map ofList := by
  have named : (ofList [separator] == "") = false := by
    rw [beq_eq_false_iff_ne]
    intro empty
    simpa using congrArg String.toList empty
  have scan := splitOnAux_singleton separator [] [] text.toList []
  rw [String.splitOn, named, if_neg Bool.false_ne_true, List.splitOn_eq_splitOnP]
  simpa using scan

end FrameChat.Text
