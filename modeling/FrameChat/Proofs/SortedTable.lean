import FrameChat.Archive.SortedTable
import Mathlib.Data.List.Basic

/-!
# Tables in order

A table is sorted if the keys of its entries increase.  Every operation keeps it
so, and for a sorted table it is enough to say which entries it has: an insertion
has the new entry and those of other keys, a removal those of other keys.  Two
sorted tables with the same entries are the same.
-/

namespace FrameChat.SortedTable

variable {κ ν : Type} [Ord κ]

/-- The keys of the entries increase. -/
def Sorted (table : SortedTable κ ν) : Prop :=
  table.entries.Pairwise fun earlier later => compare earlier.1 later.1 = .lt

theorem sorted_empty : (empty : SortedTable κ ν).Sorted := List.Pairwise.nil

theorem Sorted.erase {table : SortedTable κ ν} (sorted : table.Sorted) (key : κ) :
    (table.erase key).Sorted :=
  List.Pairwise.sublist List.filter_sublist sorted

theorem ne_of_compare_lt [Std.ReflOrd κ] {first second : κ}
    (below : compare first second = .lt) : second ≠ first := by
  rintro rfl
  rw [Std.ReflOrd.compare_self] at below
  cases below

/-- A key stands in a sorted table once. -/
theorem Sorted.nodup_keys [Std.ReflOrd κ] {table : SortedTable κ ν} (sorted : table.Sorted) :
    (table.entries.map Prod.fst).Nodup := by
  rw [List.Nodup, List.pairwise_map]
  exact List.Pairwise.imp (fun below => (ne_of_compare_lt below).symm) sorted

/-- Keys above the first entry of a list in order are above what is below that entry. -/
theorem compare_lt_of_mem [Std.TransOrd κ] {key : κ} {head entry : κ × ν} {rest : List (κ × ν)}
    (below : compare key head.1 = .lt)
    (headBelow : ∀ later ∈ rest, compare head.1 later.1 = .lt)
    (member : entry ∈ head :: rest) : compare key entry.1 = .lt := by
  rcases List.mem_cons.mp member with rfl | later
  · exact below
  · exact Std.TransCmp.lt_trans below (headBelow entry later)

variable [Std.LawfulEqOrd κ]

theorem mem_erase {table : SortedTable κ ν} {key : κ} {entry : κ × ν} :
    entry ∈ (table.erase key).entries ↔ entry ∈ table.entries ∧ entry.1 ≠ key := by
  have same : compare key entry.1 = .eq ↔ entry.1 = key :=
    Std.compare_eq_iff_eq.trans eq_comm
  rw [erase, List.mem_filter, bne_iff_ne, Ne, same]

/-- In a sorted table every entry is found under its key. -/
theorem Sorted.get?_eq_some_iff {table : SortedTable κ ν} (sorted : table.Sorted) {key : κ}
    {value : ν} : table.get? key = some value ↔ (key, value) ∈ table.entries := by
  rcases table with ⟨entries⟩
  show (entries.find? fun entry => compare key entry.1 == .eq).map Prod.snd = some value ↔ _
  replace sorted : entries.Pairwise fun earlier later => compare earlier.1 later.1 = .lt := sorted
  induction entries with
  | nil => simp
  | cons head rest ih =>
      rcases List.pairwise_cons.mp sorted with ⟨headBelow, restSorted⟩
      by_cases same : key = head.1
      · have unlisted : (key, value) ∉ rest := fun member =>
          ne_of_compare_lt (headBelow _ member) same
        rw [List.find?_cons_of_pos (by simp [same]), List.mem_cons, or_iff_left unlisted]
        simp [Prod.ext_iff, same, eq_comm]
      · have passed : (compare key head.1 == .eq) = false := by
          rw [beq_eq_false_iff_ne, Ne, Std.compare_eq_iff_eq]
          exact same
        have other : (key, value) ≠ head := fun equal => same (congrArg Prod.fst equal)
        rw [List.find?_cons_of_neg (by simp [passed]), List.mem_cons, or_iff_right other]
        exact ih restSorted

variable [Std.TransOrd κ]

theorem mem_insertInto_iff {key : κ} {value : ν} {entry : κ × ν} {entries : List (κ × ν)}
    (sorted : entries.Pairwise fun earlier later => compare earlier.1 later.1 = .lt) :
    entry ∈ insertInto key value entries ↔
      entry = (key, value) ∨ entry ∈ entries ∧ entry.1 ≠ key := by
  induction entries with
  | nil => simp [insertInto]
  | cons head rest ih =>
      rcases List.pairwise_cons.mp sorted with ⟨headBelow, restSorted⟩
      rw [insertInto]
      cases order : compare key head.1 with
      | lt =>
          have others : entry ∈ head :: rest → entry.1 ≠ key := fun member =>
            ne_of_compare_lt (compare_lt_of_mem order headBelow member)
          rw [List.mem_cons, and_iff_left_of_imp others]
      | eq =>
          have same : key = head.1 := Std.compare_eq_iff_eq.mp order
          have others : entry ∈ rest → entry.1 ≠ key := fun member =>
            same ▸ ne_of_compare_lt (headBelow entry member)
          rw [List.mem_cons, List.mem_cons, or_and_right, and_iff_left_of_imp others]
          constructor
          · exact Or.imp_right Or.inr
          · rintro (new | ⟨rfl, differ⟩ | old)
            · exact Or.inl new
            · exact absurd same.symm differ
            · exact Or.inr old
      | gt =>
          have differ : head.1 ≠ key := (ne_of_compare_lt (Std.OrientedCmp.gt_iff_lt.mp order)).symm
          rw [List.mem_cons, List.mem_cons, ih restSorted]
          constructor
          · rintro (rfl | new | old)
            · exact Or.inr ⟨Or.inl rfl, differ⟩
            · exact Or.inl new
            · exact Or.inr ⟨Or.inr old.1, old.2⟩
          · rintro (new | ⟨rfl | old, other⟩)
            · exact Or.inr (Or.inl new)
            · exact Or.inl rfl
            · exact Or.inr (Or.inr ⟨old, other⟩)

theorem Sorted.mem_insert {table : SortedTable κ ν} (sorted : table.Sorted) {key : κ} {value : ν}
    {entry : κ × ν} :
    entry ∈ (table.insert key value).entries ↔
      entry = (key, value) ∨ entry ∈ table.entries ∧ entry.1 ≠ key :=
  mem_insertInto_iff sorted

theorem Sorted.insert {table : SortedTable κ ν} (sorted : table.Sorted) (key : κ) (value : ν) :
    (table.insert key value).Sorted := by
  rcases table with ⟨entries⟩
  show (insertInto key value entries).Pairwise _
  replace sorted : entries.Pairwise fun earlier later => compare earlier.1 later.1 = .lt := sorted
  induction entries with
  | nil => exact List.pairwise_singleton _ _
  | cons head rest ih =>
      rcases List.pairwise_cons.mp sorted with ⟨headBelow, restSorted⟩
      rw [insertInto]
      cases order : compare key head.1 with
      | lt => exact List.Pairwise.cons (fun _ => compare_lt_of_mem order headBelow) sorted
      | eq =>
          refine List.Pairwise.cons (fun later member => ?_) restSorted
          rw [Std.compare_eq_iff_eq.mp order]
          exact headBelow later member
      | gt =>
          refine List.Pairwise.cons (fun later member => ?_) (ih restSorted)
          rcases (mem_insertInto_iff restSorted).mp member with rfl | ⟨old, -⟩
          · exact Std.OrientedCmp.gt_iff_lt.mp order
          · exact headBelow later old

end FrameChat.SortedTable
