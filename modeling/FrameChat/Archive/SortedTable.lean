/-!
# Sorted tables

A table keeps its entries in the order of their keys, each key once.
-/

namespace FrameChat

/-- Entries in the order of their keys. -/
structure SortedTable (κ ν : Type) where
  entries : List (κ × ν)
  deriving Repr

namespace SortedTable

variable {κ ν : Type} [Ord κ]

/-- The table without entries. -/
def empty : SortedTable κ ν :=
  ⟨[]⟩

instance : Inhabited (SortedTable κ ν) := ⟨empty⟩

/-- Put an entry in its place among others, in place of one with the same key. -/
def insertInto (key : κ) (value : ν) : List (κ × ν) → List (κ × ν)
  | [] => [(key, value)]
  | entry :: rest =>
      match compare key entry.1 with
      | .lt => (key, value) :: entry :: rest
      | .eq => (key, value) :: rest
      | .gt => entry :: insertInto key value rest

/-- Put an entry in its place, in place of one with the same key. -/
def insert (table : SortedTable κ ν) (key : κ) (value : ν) : SortedTable κ ν :=
  ⟨insertInto key value table.entries⟩

/-- The value of a key. -/
def get? (table : SortedTable κ ν) (key : κ) : Option ν :=
  (table.entries.find? fun entry => compare key entry.1 == .eq).map Prod.snd

/-- Remove a key. -/
def erase (table : SortedTable κ ν) (key : κ) : SortedTable κ ν :=
  ⟨table.entries.filter fun entry => compare key entry.1 != .eq⟩

/-- Number of entries. -/
def size (table : SortedTable κ ν) : Nat :=
  table.entries.length

/-- Keep the `limit` entries with the largest keys. -/
def keepLast (table : SortedTable κ ν) (limit : Nat) : SortedTable κ ν :=
  ⟨table.entries.drop (table.entries.length - limit)⟩

/-- The values in the order of their keys. -/
def values (table : SortedTable κ ν) : List ν :=
  table.entries.map Prod.snd

omit [Ord κ] in
theorem size_keepLast (table : SortedTable κ ν) (limit : Nat) :
    (table.keepLast limit).size = min table.size limit := by
  simp only [size, keepLast, List.length_drop]
  omega

end SortedTable

end FrameChat
