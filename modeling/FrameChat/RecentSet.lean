/-!
# Sets that forget the oldest

A set with a capacity, held newest first.  An element that is inserted or met
again becomes the newest; when there are too many, the oldest is forgotten.
-/

namespace FrameChat

/-- At most `capacity` elements, newest first. -/
structure RecentSet (α : Type) where
  capacity : Nat
  newestFirst : List α
  deriving Repr

namespace RecentSet

variable {α : Type}

/-- The set that has met nothing. -/
def empty (capacity : Nat) : RecentSet α :=
  ⟨capacity, []⟩

/-- Number of remembered elements. -/
def size (set : RecentSet α) : Nat :=
  set.newestFirst.length

@[simp]
theorem size_empty (capacity : Nat) : (empty capacity : RecentSet α).size = 0 := rfl

variable [BEq α]

/-- Whether the set remembers an element. -/
def contains (set : RecentSet α) (element : α) : Bool :=
  set.newestFirst.contains element

/-- Make an element the newest, whether or not it was there. -/
def refresh (set : RecentSet α) (element : α) : RecentSet α :=
  { set with newestFirst := (element :: set.newestFirst.erase element).take set.capacity }

@[simp]
theorem capacity_refresh (set : RecentSet α) (element : α) :
    (set.refresh element).capacity = set.capacity := rfl

/-- The capacity is kept, whatever the set was before. -/
theorem size_refresh_le (set : RecentSet α) (element : α) :
    (set.refresh element).size ≤ set.capacity := by
  simp only [size, refresh, List.length_take]
  exact Nat.min_le_left _ _

end RecentSet

end FrameChat
