import Mathlib.Data.List.Perm.Basic

/-!
# Finding entries in lists

Rosters, directories, mailboxes and archives are lists of entries that are found
by their keys.  An entry is replaced by leaving out all entries of its key and
putting a new one in front.  In lists to which entries are only added, what counts is
the last one of a kind.
-/

namespace FrameChat

variable {κ ν : Type} [DecidableEq κ]

/-- Leaving out the entries of one key does not change what is found under another. -/
theorem lookup_filter_ne {key other : κ} (differ : other ≠ key) (entries : List (κ × ν)) :
    (entries.filter fun entry => entry.1 ≠ key).lookup other = entries.lookup other := by
  induction entries with
  | nil => rfl
  | cons entry rest ih =>
      by_cases same : entry.1 = key
      · have passed : (other == entry.1) = false := by simpa [same] using differ
        rw [List.filter_cons_of_neg (by simpa using same), List.lookup_cons, passed, ih]
      · rw [List.filter_cons_of_pos (by simpa using same), List.lookup_cons, List.lookup_cons, ih]

theorem lookup_filter_self (key : κ) (entries : List (κ × ν)) :
    (entries.filter fun entry => entry.1 ≠ key).lookup key = none := by
  rw [List.lookup_eq_none_iff]
  intro entry member
  have differ : entry.1 ≠ key := by simpa using (List.mem_filter.mp member).2
  simpa using differ.symm

/-- What is put in front under a key is found there, and all else where it was. -/
theorem lookup_replace (key other : κ) (value : ν) (entries : List (κ × ν)) :
    ((key, value) :: entries.filter fun entry => entry.1 ≠ key).lookup other =
      if other = key then some value else entries.lookup other := by
  rw [List.lookup_cons]
  by_cases same : other = key
  · simp [same]
  · have passed : (other == key) = false := by simpa using same
    rw [passed, if_neg same]
    exact lookup_filter_ne same entries

/-- The keys of a list are those under which something is found. -/
theorem mem_map_fst_iff {key : κ} {entries : List (κ × ν)} :
    key ∈ entries.map Prod.fst ↔ ∃ value, entries.lookup key = some value := by
  induction entries with
  | nil => simp
  | cons entry rest ih =>
      rw [List.map_cons, List.mem_cons, List.lookup_cons, ih]
      by_cases same : key = entry.1
      · simp [same]
      · have passed : (key == entry.1) = false := by simpa using same
        rw [passed, or_iff_right same]

theorem mem_of_lookup {key : κ} {value : ν} {entries : List (κ × ν)}
    (found : entries.lookup key = some value) : (key, value) ∈ entries := by
  rcases List.lookup_eq_some_iff.mp found with ⟨before, after, rfl, -⟩
  simp

/-- An entry of a list without repeated keys is found under its key. -/
theorem lookup_of_mem {entries : List (κ × ν)} (distinct : (entries.map Prod.fst).Nodup)
    {key : κ} {value : ν} (member : (key, value) ∈ entries) : entries.lookup key = some value := by
  rcases List.append_of_mem member with ⟨before, after, rfl⟩
  refine List.lookup_eq_some_iff.mpr ⟨before, after, rfl, fun entry earlier => ?_⟩
  rw [List.map_append, List.nodup_append] at distinct
  have differ := distinct.2.2 entry.1 (List.mem_map_of_mem earlier) key (by simp)
  simpa using differ.symm

section

variable {α : Type} {kind : α → Bool}

theorem getLast?_filter_snoc (entries : List α) (entry : α) :
    ((entries ++ [entry]).filter kind).getLast? =
      if kind entry then some entry else (entries.filter kind).getLast? := by
  rw [List.filter_append]
  split
  case isTrue same => simp [same]
  case isFalse other => simp [other]

theorem mem_of_getLast?_filter {entries : List α} {entry : α}
    (last : (entries.filter kind).getLast? = some entry) : entry ∈ entries ∧ kind entry = true :=
  List.mem_filter.mp (List.mem_of_getLast? last)

/-- There is a last one of a kind if there is one at all. -/
theorem exists_getLast?_filter {entries : List α} {entry : α} (member : entry ∈ entries)
    (same : kind entry = true) : ∃ last, (entries.filter kind).getLast? = some last :=
  ⟨_, List.getLast?_eq_some_getLast
    (List.ne_nil_of_mem (List.mem_filter.mpr ⟨member, same⟩))⟩

end

/-- An element of a list and the others. -/
theorem perm_of_getElem? {α : Type} {list : List α} {pick : Nat} {entry : α}
    (found : list[pick]? = some entry) : list.Perm (entry :: list.eraseIdx pick) := by
  rcases List.getElem?_eq_some_iff.mp found with ⟨within, rfl⟩
  exact (List.getElem_cons_eraseIdx_perm within).symm

end FrameChat
