/-!
# The directory

The directory says which instance of a channel is live under a name.  Instances
are numbered in the order in which they were loaded.
-/

namespace FrameChat

/-- The live instance under each name, and the viewers counted by the last sweep. -/
structure Directory where
  entries : List (String × Nat)
  totalViewers : Nat
  deriving DecidableEq, Repr

namespace Directory

/-- Milliseconds between two sweeps unless configured otherwise. -/
def sweepPeriod : Nat := 60000

/-- Nothing is live. -/
def empty : Directory :=
  ⟨[], 0⟩

/-- The instance under a name, unless it is closed. -/
def find? (directory : Directory) (closed : Nat → Bool) (name : String) : Option Nat :=
  (directory.entries.lookup name).filter fun live => !closed live

/--
Put an instance under a name.  If another one that is not closed stands there
already, that one stays and is returned.
-/
def insert (directory : Directory) (closed : Nat → Bool) (name : String) (loaded : Nat) :
    Option Nat × Directory :=
  match directory.find? closed name with
  | some existing => (some existing, directory)
  | none =>
      (none,
        { directory with
          entries := (name, loaded) :: directory.entries.filter fun entry => entry.1 ≠ name })

/-- Number of names. -/
def size (directory : Directory) : Nat :=
  directory.entries.length

end Directory

end FrameChat
