/-!
# Similar words

How much two words resemble each other, from zero to one.  Each character of
the first word is paired with the first free equal one of the second that is
not too far away.  The similarity is the mean of three shares: of paired
characters in either word, and of pairs that stand in the same order.
-/

namespace FrameChat.Text.Similarity

/-- How far the places of two paired characters may lie apart. -/
def reach (left right : List Char) : Nat :=
  max left.length right.length / 2 - 1

/-- The place of the first free character that a character at `place` is paired with. -/
def partner? (reach : Nat) (right : List Char) (taken : List Nat) (place : Nat) (char : Char) :
    Option Nat :=
  (List.range right.length).find? fun other =>
    other ≤ place + reach && place ≤ other + reach && right[other]? == some char &&
      !taken.contains other

/-- The paired characters of the first word, and the places of their partners. -/
def pairs (reach : Nat) (right : List Char) (taken : List Nat) (place : Nat) :
    List Char → List (Char × Nat)
  | [] => []
  | char :: rest =>
      match partner? reach right taken place char with
      | none => pairs reach right taken (place + 1) rest
      | some other => (char, other) :: pairs reach right (other :: taken) (place + 1) rest

/-- The similarity of two words. -/
def score (left right : List Char) : Float :=
  let pairs := pairs (reach left right) right [] 0 left
  let inOrder := (pairs.map Prod.snd).mergeSort.map fun place => right[place]?
  let moved := ((pairs.zip inOrder).filter fun (pair, char) => some pair.1 != char).length / 2
  let paired := Float.ofNat pairs.length
  if left.isEmpty && right.isEmpty then 1
  else if pairs.isEmpty then 0
  else
    (paired / Float.ofNat left.length + paired / Float.ofNat right.length +
      Float.ofNat (pairs.length - moved) / paired) / 3

/-- From where on a word counts as similar. -/
def threshold : Float := 0.7

/-- The word most similar to a given one, if any is similar; of equally similar ones the last. -/
def nearest? (word : String) (words : List String) : Option String :=
  let scored := words.map fun other => (score word.toList other.toList, other)
  let best := (scored.filter fun entry => threshold < entry.1).foldl
    (fun (best : Option (Float × String)) entry =>
      match best with
      | some leader => if entry.1 < leader.1 then best else some entry
      | none => some entry)
    none
  best.map Prod.snd

end FrameChat.Text.Similarity
