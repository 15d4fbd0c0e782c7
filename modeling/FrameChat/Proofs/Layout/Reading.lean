import FrameChat.Proofs.Emoji.Longest
import FrameChat.Proofs.Layout.Spots
import Mathlib.Data.List.Forall2

/-!
# How a line is read

A line is read from its front: an invisible character is passed over, the longest cluster
that stands there is an emoji, and any other character is itself.  `Reads` says so by the
list of clusters alone, without the table in which they are looked up and without the links
that begin in the line.  Each line has exactly one reading (`Reads.eq`), which is that of its
tokens (`reads_tokensFrom`).
-/

namespace FrameChat

namespace Emoji

/-- A cluster that stands at the front of a line, where no longer one does. -/
structure LongestAt (clusters : List (List Char)) (line cluster : List Char) : Prop where
  listed : cluster ∈ clusters
  present : cluster ≠ []
  ahead : cluster <+: line
  longest : ∀ other ∈ clusters, other <+: line → other.length ≤ cluster.length

/-- The sprite of a cluster is the one at the position of its first listing. -/
def spriteOf (clusters : List (List Char)) (cluster : List Char) : Cell :=
  Cell.ofOrdinal ((pictured clusters).idxOf cluster)

section

variable {clusters : List (List Char)} {line cluster other : List Char}

theorem LongestAt.eq (first : LongestAt clusters line cluster)
    (second : LongestAt clusters line other) : cluster = other := by
  have below := first.longest other second.listed second.ahead
  have above := second.longest cluster first.listed first.ahead
  exact List.IsPrefix.eq_of_length (List.prefix_of_prefix_length_le first.ahead second.ahead above)
    (Nat.le_antisymm above below)

theorem length_le_of_byteLength_le (firstAhead : cluster <+: line) (secondAhead : other <+: line)
    (shorter : byteLength cluster ≤ byteLength other) : cluster.length ≤ other.length := by
  rcases List.prefix_or_prefix_of_prefix firstAhead secondAhead with ahead | ahead
  · exact ahead.length_le
  · have same := Nat.le_antisymm shorter (byteLength_le_of_isPrefix ahead)
    exact Nat.le_of_eq (congrArg List.length
      (eq_of_isPrefix_of_byteLength_eq firstAhead secondAhead same))

variable {lead : Char} {rest : List Char}

theorem longestAt_of_probe {found : Candidate}
    (probed : (Table.ofSequences clusters).probe lead rest = some found) :
    LongestAt clusters (lead :: rest) (lead :: found.suffix) := by
  have ranks := Table.ranks_ofSequences clusters
  have ahead := Table.isPrefix_of_probe probed
  constructor
  case listed => exact ranks.cons_mem_of_probe probed
  case present => exact List.cons_ne_nil _ _
  case ahead => exact List.cons_prefix_cons.mpr ⟨rfl, ahead⟩
  case longest =>
    intro other member front
    cases other with
    | nil => exact Nat.zero_le _
    | cons first suffix =>
        rcases List.cons_prefix_cons.mp front with ⟨rfl, further⟩
        have shorter := ranks.byteLength_le_of_probe probed member further
        exact Nat.succ_le_succ (length_le_of_byteLength_le further ahead shorter)

theorem cell_of_probe {found : Candidate}
    (probed : (Table.ofSequences clusters).probe lead rest = some found) :
    found.cell = spriteOf clusters (lead :: found.suffix) := by
  rcases (Table.ranks_ofSequences clusters).exists_first_of_probe probed with
    ⟨ordinal, listed, first, cell⟩
  rcases List.getElem?_eq_some_iff.mp listed with ⟨inside, here⟩
  have index : (pictured clusters).idxOf (lead :: found.suffix) = ordinal := by
    refine (List.findIdx_eq inside).mpr ⟨beq_iff_eq.mpr here, ?_⟩
    intro earlier before
    have differ := first earlier before
    rw [List.getElem?_eq_getElem (Nat.lt_trans before inside)] at differ
    exact beq_eq_false_iff_ne.mpr fun same => differ (congrArg some same)
  rw [cell, spriteOf, index]

theorem not_isPrefix_of_probe (missed : (Table.ofSequences clusters).probe lead rest = none)
    (listed : cluster ∈ clusters) (present : cluster ≠ []) : ¬ cluster <+: lead :: rest := by
  intro ahead
  have found : (Table.ofSequences clusters).probe lead rest ≠ none := by
    rw [← Option.isSome_iff_ne_none, (Table.ranks_ofSequences clusters).isSome_probe_iff]
    cases cluster with
    | nil => exact absurd rfl present
    | cons first suffix =>
        rcases List.cons_prefix_cons.mp ahead with ⟨rfl, further⟩
        exact ⟨suffix, listed, further⟩
  exact found missed

end

end Emoji

namespace Layout

open Emoji

/-- The items of the rest of a line, each with the number of characters that stand before it. -/
inductive Reads (clusters : List (List Char)) : Nat → List Char → List (Nat × Item) → Prop
  | done {offset : Nat} : Reads clusters offset [] []
  | invisible {offset : Nat} {char : Char} {rest : List Char} {items : List (Nat × Item)}
      (hidden : isInvisible char = true) (further : Reads clusters (offset + 1) rest items) :
      Reads clusters offset (char :: rest) items
  | emoji {offset : Nat} {char : Char} {rest cluster : List Char} {items : List (Nat × Item)}
      (visible : isInvisible char = false) (longest : LongestAt clusters (char :: rest) cluster)
      (further : Reads clusters (offset + cluster.length) ((char :: rest).drop cluster.length)
        items) :
      Reads clusters offset (char :: rest) ((offset, .emoji (spriteOf clusters cluster)) :: items)
  | glyph {offset : Nat} {char : Char} {rest : List Char} {items : List (Nat × Item)}
      (visible : isInvisible char = false)
      (alone : ∀ cluster ∈ clusters, cluster ≠ [] → ¬ cluster <+: char :: rest)
      (further : Reads clusters (offset + 1) rest items) :
      Reads clusters offset (char :: rest) ((offset, .glyph char) :: items)

section

variable {clusters : List (List Char)}

/-- A line has no second reading. -/
theorem Reads.eq {offset : Nat} {line : List Char} {items others : List (Nat × Item)}
    (first : Reads clusters offset line items) (second : Reads clusters offset line others) :
    items = others := by
  induction first generalizing others with
  | done =>
      cases second
      rfl
  | invisible hidden further ih =>
      cases second with
      | invisible _ other => exact ih other
      | emoji visible => simp [hidden] at visible
      | glyph visible => simp [hidden] at visible
  | emoji visible longest further ih =>
      cases second with
      | invisible hidden => simp [visible] at hidden
      | emoji _ another other =>
          obtain rfl := longest.eq another
          rw [ih other]
      | glyph _ alone => exact absurd longest.ahead (alone _ longest.listed longest.present)
  | glyph visible alone further ih =>
      cases second with
      | invisible hidden => simp [visible] at hidden
      | emoji _ longest => exact absurd longest.ahead (alone _ longest.listed longest.present)
      | glyph _ _ other => rw [ih other]

/-- The items of the tokens of a line, with their offsets. -/
def itemsFrom (table : Table) (offset : Nat) (line : List Char) : List (Nat × Item) :=
  (tokensFrom table offset line).map fun entry => (entry.1, entry.2.item)

theorem map_snd_itemsFrom (table : Table) (offset : Nat) (line : List Char) :
    (itemsFrom table offset line).map Prod.snd = (tokens table line).map Token.item := by
  rw [← map_snd_tokensFrom table offset, itemsFrom, List.map_map, List.map_map]
  rfl

/-- Tokens are read as they should be. -/
theorem reads_itemsFrom (clusters : List (List Char)) (offset : Nat) (line : List Char) :
    Reads clusters offset line (itemsFrom (Table.ofSequences clusters) offset line) := by
  rw [itemsFrom]
  fun_induction tokensFrom (Table.ofSequences clusters) offset line with
  | case1 => exact .done
  | case2 offset char rest hidden ih => exact .invisible hidden ih
  | case3 offset char rest visible link found probed ih =>
      rw [List.map_cons, cell_of_probe probed]
      refine .emoji (by simpa using visible) (longestAt_of_probe probed) ?_
      rwa [List.length_cons, List.drop_succ_cons, ← Nat.add_assoc, Nat.add_right_comm]
  | case4 offset char rest visible link probed ih =>
      exact .glyph (by simpa using visible) (fun _ => not_isPrefix_of_probe probed) ih

/-- What the source lines of a text are read as. -/
def ReadsText (clusters : List (List Char)) (text : String) (contents : List (List (Nat × Item))) :
    Prop :=
  List.Forall₂ (Reads clusters 0) (sourceLines (expandTabs text.toList)) contents

theorem readsText_iff {text : String} {contents : List (List (Nat × Item))} :
    ReadsText clusters text contents ↔
      contents = (sourceLines (expandTabs text.toList)).map
        (itemsFrom (Table.ofSequences clusters) 0) := by
  rw [ReadsText]
  constructor
  · intro read
    have same := read.imp fun line _ reading => (reads_itemsFrom clusters 0 line).eq reading
    rw [← List.forall₂_map_left_iff, List.forall₂_eq_eq_eq] at same
    exact same.symm
  · rintro rfl
    rw [List.forall₂_map_right_iff, List.forall₂_same]
    exact fun line _ => reads_itemsFrom clusters 0 line

end

end Layout

end FrameChat
