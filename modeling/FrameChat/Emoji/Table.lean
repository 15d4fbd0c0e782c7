import Std.Data.TreeMap
import FrameChat.Bytes

/-!
# Emoji clusters

An emoji may be one code point or several that belong together.  A table lists
the clusters; the position of a cluster selects its sprite in an atlas of
square cells, forty to a row.  A text is probed at a code point and what
follows it, and the longest cluster that fits is the answer.
-/

namespace FrameChat.Emoji

/-- Edge of a sprite cell in pixels. -/
def cellEdge : Nat := 24

/-- Sprite cells in a row of the atlas. -/
def cellsPerRow : Nat := 40

/-- The place of a sprite in the atlas, by its upper left pixel. -/
structure Cell where
  x : Nat
  y : Nat
  deriving DecidableEq, Repr, Inhabited

/-- The cell of the cluster at a position of the table. -/
def Cell.ofOrdinal (ordinal : Nat) : Cell :=
  ⟨ordinal % cellsPerRow * cellEdge, ordinal / cellsPerRow * cellEdge⟩

/-- Bytes that code points take in UTF-8. -/
def byteLength : List Char → Nat
  | [] => 0
  | char :: rest => char.utf8Size + byteLength rest

/-- A cluster without its first code point. -/
structure Candidate where
  suffix : List Char
  cell : Cell
  deriving DecidableEq, Repr

/-- Clusters by their first code point, those with the longest rest first. -/
structure Table where
  /-- number of clusters -/
  size : Nat
  byLead : Std.TreeMap Char (List Candidate)

namespace Table

/-- The table without clusters. -/
def empty : Table :=
  ⟨0, ∅⟩

instance : Inhabited Table := ⟨empty⟩

/--
Place a candidate behind all that are at least as long, so that those of one length keep the
order in which they came.  No probe can tell how these stand: of two that differ at most one
fits what follows, and of two that are equal the one that came first is found.
-/
def place (candidate : Candidate) : List Candidate → List Candidate
  | [] => [candidate]
  | first :: rest =>
      if byteLength first.suffix < byteLength candidate.suffix then candidate :: first :: rest
      else first :: place candidate rest

/-- The candidates that begin with a code point. -/
def candidates (table : Table) (lead : Char) : List Candidate :=
  table.byLead.getD lead []

/-- Add the next cluster; without code points there is nothing to add. -/
def add (table : Table) : List Char → Table
  | [] => table
  | lead :: suffix =>
      { size := table.size + 1
        byLead := table.byLead.insert lead
          (place ⟨suffix, Cell.ofOrdinal table.size⟩ (table.candidates lead)) }

/-- The table of the given clusters, in order. -/
def ofSequences (sequences : List (List Char)) : Table :=
  sequences.foldl add empty

/-- The longest cluster that begins with `lead` and goes on into `rest`. -/
def probe (table : Table) (lead : Char) (rest : List Char) : Option Candidate :=
  (table.candidates lead).find? fun candidate => candidate.suffix.isPrefixOf rest

@[simp]
theorem add_nil (table : Table) : table.add [] = table := rfl

@[simp]
theorem size_add_cons (table : Table) (lead : Char) (suffix : List Char) :
    (table.add (lead :: suffix)).size = table.size + 1 := rfl

@[simp]
theorem candidates_empty (lead : Char) : empty.candidates lead = [] := by
  simp [candidates, empty]

end Table

/-- What a probe found ahead lies ahead. -/
theorem Table.isPrefix_of_probe {table : Table} {lead : Char} {rest : List Char}
    {candidate : Candidate} (found : table.probe lead rest = some candidate) :
    candidate.suffix <+: rest := by
  have := List.find?_some found
  simpa using this

end FrameChat.Emoji
