/-!
# Ranges of code points

A property of characters is a table of ranges of code points, in order.  The
module holds what all such tables share.
-/

namespace FrameChat.Text

/-- The first and the last code point of each range. -/
abbrev CodeRanges := List (Nat × Nat)

namespace CodeRanges

/-- Whether a character lies in a range. -/
def holds (ranges : CodeRanges) (char : Char) : Bool :=
  ranges.any fun (first, last) => first ≤ char.toNat && char.toNat ≤ last

/-- Whether ranges follow one another with a gap between each two. -/
def areApart : CodeRanges → Bool
  | [] => true
  | [(first, last)] => first ≤ last
  | (first, last) :: (next, close) :: rest =>
      first ≤ last && last + 1 < next && areApart ((next, close) :: rest)

/-- A character is held by two tables together when one of them holds it. -/
theorem holds_append (left right : CodeRanges) (char : Char) :
    holds (left ++ right) char = (holds left char || holds right char) := by
  simp [holds, List.any_append]

end CodeRanges

end FrameChat.Text
