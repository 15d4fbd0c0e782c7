import FrameChat.RecentSet
import Mathlib.Data.Finset.Card
import Mathlib.Data.List.DropRight

/-!
# What a set that forgets the oldest remembers

What such a set holds depends on the elements that it met, in their order, and on its
capacity.  Without a capacity it would hold all of them, each once and the one that was met
last in front; with a capacity it holds the first of these.  An element is so remembered
exactly if it was met at all and fewer different ones than the capacity were met since then.

* `newestFirst_refreshAll`: what the set holds.
* `contains_refreshAll`: which elements it remembers.
-/

namespace FrameChat.RecentSet

variable {α : Type} [DecidableEq α]

/-- The set after it met the elements of a history. -/
def refreshAll (set : RecentSet α) (history : List α) : RecentSet α :=
  history.foldl refresh set

/-- The elements of a history, each once, and the one that was met last in front. -/
def latestFirst (history : List α) : List α :=
  history.foldl (fun elements element => element :: elements.erase element) []

/-- The elements that were met after an element was met last. -/
def metSince (element : α) (history : List α) : Finset α :=
  (history.rtakeWhile fun other => other ≠ element).toFinset

/-- Meeting an element makes the set remember no other one. -/
theorem eq_or_contains_of_refresh {set : RecentSet α} {element other : α}
    (remembered : (set.refresh element).contains other = true) :
    other = element ∨ set.contains other = true := by
  rw [contains, List.contains_iff_mem] at remembered
  rcases List.mem_cons.mp (List.mem_of_mem_take remembered) with same | member
  · exact .inl same
  · exact .inr (List.contains_iff_mem.mpr (List.mem_of_mem_erase member))

theorem refreshAll_snoc (set : RecentSet α) (history : List α) (element : α) :
    set.refreshAll (history ++ [element]) = (set.refreshAll history).refresh element := by
  simp [refreshAll]

theorem latestFirst_snoc (history : List α) (element : α) :
    latestFirst (history ++ [element]) = element :: (latestFirst history).erase element := by
  simp [latestFirst]

theorem capacity_refreshAll (set : RecentSet α) (history : List α) :
    (set.refreshAll history).capacity = set.capacity := by
  induction history using List.reverseRecOn with
  | nil => rfl
  | append_singleton history element ih => rw [refreshAll_snoc, capacity_refresh, ih]

theorem metSince_snoc_self (element : α) (history : List α) :
    metSince element (history ++ [element]) = ∅ := by
  simp [metSince]

theorem metSince_snoc_of_ne {element other : α} (differ : other ≠ element) (history : List α) :
    metSince element (history ++ [other]) = insert other (metSince element history) := by
  simp [metSince, differ, Finset.union_comm]

theorem notMem_metSince (element : α) (history : List α) :
    element ∉ metSince element history := by
  intro member
  have differ := List.mem_rtakeWhile_imp (List.mem_toFinset.mp member)
  simp at differ

/-- Since an element was met, no others were met than those that came after it. -/
theorem metSince_append_cons_subset (element : α) (earlier later : List α) :
    metSince element (earlier ++ element :: later) ⊆ later.toFinset.erase element := by
  induction later using List.reverseRecOn with
  | nil => simp [metSince]
  | append_singleton later last ih =>
      rw [← List.cons_append, ← List.append_assoc]
      by_cases same : last = element
      · rw [same, metSince_snoc_self]
        exact Finset.empty_subset _
      · rw [metSince_snoc_of_ne same]
        intro other member
        rcases Finset.mem_insert.mp member with rfl | before
        · simp [same]
        · have among := ih before
          simp only [Finset.mem_erase, List.mem_toFinset] at among ⊢
          exact ⟨among.1, List.mem_append_left _ among.2⟩

/-- If an element was not met again, all that came after it were met since. -/
theorem metSince_append_cons {element : α} (earlier : List α) {later : List α}
    (absent : element ∉ later) :
    metSince element (earlier ++ element :: later) = later.toFinset := by
  induction later using List.reverseRecOn with
  | nil => simp [metSince]
  | append_singleton later last ih =>
      rw [List.mem_append, List.mem_singleton, not_or] at absent
      rw [← List.cons_append, ← List.append_assoc, metSince_snoc_of_ne (Ne.symm absent.2),
        ih absent.1]
      simp

theorem nodup_latestFirst (history : List α) : (latestFirst history).Nodup := by
  induction history using List.reverseRecOn with
  | nil => exact List.nodup_nil
  | append_singleton history last ih =>
      rw [latestFirst_snoc]
      exact List.nodup_cons.mpr ⟨ih.not_mem_erase, ih.erase last⟩

theorem mem_latestFirst {element : α} {history : List α} :
    element ∈ latestFirst history ↔ element ∈ history := by
  induction history using List.reverseRecOn with
  | nil => rfl
  | append_singleton history last ih =>
      rw [latestFirst_snoc, List.mem_cons, List.mem_append, List.mem_singleton]
      by_cases same : element = last
      · simp [same]
      · rw [List.mem_erase_of_ne same, ih]
        simp [same]

/-- What was forgotten has no influence on what is remembered next. -/
theorem take_cons_erase_take (capacity : Nat) (elements : List α) (element : α) :
    (element :: (elements.take capacity).erase element).take capacity =
      (element :: elements.erase element).take capacity := by
  cases capacity with
  | zero => rfl
  | succ capacity =>
      rw [List.take_succ_cons, List.take_succ_cons, List.cons.injEq, and_iff_right rfl]
      induction elements generalizing capacity with
      | nil => rfl
      | cons first rest ih =>
          rw [List.take_succ_cons]
          by_cases same : first = element
          · subst same
            rw [List.erase_cons_head, List.erase_cons_head, List.take_take]
            simp
          · have passed : ¬(first == element) = true := by simpa using same
            rw [List.erase_cons_tail passed, List.erase_cons_tail passed]
            cases capacity with
            | zero => rfl
            | succ capacity => rw [List.take_succ_cons, List.take_succ_cons, ih]

/-- The set holds the elements that were met last, as many as its capacity allows. -/
theorem newestFirst_refreshAll (capacity : Nat) (history : List α) :
    ((empty capacity).refreshAll history).newestFirst = (latestFirst history).take capacity := by
  induction history using List.reverseRecOn with
  | nil => simp [refreshAll, latestFirst, empty]
  | append_singleton history element ih =>
      rw [refreshAll_snoc, latestFirst_snoc, refresh, capacity_refreshAll, ih]
      exact take_cons_erase_take capacity (latestFirst history) element

theorem nodup_refreshAll (capacity : Nat) (history : List α) :
    ((empty capacity).refreshAll history).newestFirst.Nodup := by
  rw [newestFirst_refreshAll]
  exact (nodup_latestFirst history).sublist (List.take_sublist _ _)

theorem size_refreshAll_le (capacity : Nat) (history : List α) :
    ((empty capacity).refreshAll history).size ≤ capacity := by
  rw [size, newestFirst_refreshAll, List.length_take]
  exact Nat.min_le_left _ _

/-- In front of an element stand those that were met since it was met last. -/
theorem exists_newer {element : α} {history : List α} (met : element ∈ history) :
    ∃ newer older, latestFirst history = newer ++ element :: older ∧ newer.Nodup ∧
      newer.toFinset = metSince element history := by
  induction history using List.reverseRecOn with
  | nil => cases met
  | append_singleton history last ih =>
      rw [latestFirst_snoc]
      by_cases same : last = element
      · subst same
        exact ⟨[], _, rfl, List.nodup_nil, (metSince_snoc_self last history).symm⟩
      · have before : element ∈ history := by
          simpa [Ne.symm same] using met
        rcases ih before with ⟨newer, older, order, distinct, since⟩
        rw [order, metSince_snoc_of_ne same, ← since]
        by_cases again : last ∈ newer
        · refine ⟨last :: newer.erase last, older, ?_, ?_, ?_⟩
          · rw [List.erase_append_left _ again, List.cons_append]
          · exact List.nodup_cons.mpr ⟨distinct.not_mem_erase, distinct.erase last⟩
          · ext other
            rw [List.toFinset_cons, Finset.mem_insert, Finset.mem_insert, List.mem_toFinset,
              List.mem_toFinset]
            by_cases front : other = last
            · simp [front]
            · rw [List.mem_erase_of_ne front]
        · refine ⟨last :: newer, older.erase last, ?_, ?_, ?_⟩
          · have passed : ¬(element == last) = true := by simpa using Ne.symm same
            rw [List.erase_append_right _ again, List.erase_cons_tail passed, List.cons_append]
          · exact List.nodup_cons.mpr ⟨again, distinct⟩
          · rw [List.toFinset_cons]

/--
An element is remembered exactly if it was met and fewer different ones than the capacity
were met since it was met last.
-/
theorem contains_refreshAll {capacity : Nat} {history : List α} {element : α} :
    ((empty capacity).refreshAll history).contains element = true ↔
      element ∈ history ∧ (metSince element history).card < capacity := by
  rw [contains, newestFirst_refreshAll, List.contains_iff_mem]
  by_cases met : element ∈ history
  · rcases exists_newer met with ⟨newer, older, order, distinct, since⟩
    have absent : element ∉ newer := by
      rw [← List.mem_toFinset, since]
      exact notMem_metSince element history
    have position : (metSince element history).card = newer.length := by
      rw [← since, List.toFinset_card_of_nodup distinct]
    rw [order, position, and_iff_right met]
    constructor
    · intro member
      by_contra full
      rw [List.take_append_of_le_length (Nat.not_lt.mp full)] at member
      exact absent (List.mem_of_mem_take member)
    · intro room
      obtain ⟨spare, rfl⟩ := Nat.exists_eq_add_of_lt room
      rw [Nat.add_assoc, List.take_length_add_append, List.take_succ_cons]
      simp
  · have absent : element ∉ (latestFirst history).take capacity := fun member =>
      met (mem_latestFirst.mp (List.mem_of_mem_take member))
    simp [absent, met]

end FrameChat.RecentSet
