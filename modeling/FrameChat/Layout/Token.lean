import FrameChat.Emoji.Table
import FrameChat.Face
import FrameChat.Text.Blank

/-!
# Tokens of a message text

A text is split into source lines, and a source line into tokens: characters
and emoji.  Invisible characters make no token.  A token also carries the link
that begins where it begins, if the rest of its line starts like one.
-/

namespace FrameChat.Layout

/-- What a token shows. -/
inductive Item where
  | glyph (char : Char)
  | emoji (cell : Emoji.Cell)
  deriving DecidableEq, Repr

/-- An item, and the link whose text begins with it. -/
structure Token where
  item : Item
  link : Option (List Char)
  deriving DecidableEq, Repr

/-- A text with two spaces for each tab. -/
def expandTabs (chars : List Char) : List Char :=
  chars.flatMap fun char => if char = '\t' then [' ', ' '] else [char]

/-- A carriage return before a line feed belongs to the line ending. -/
def withoutReturn (line : List Char) : List Char :=
  if line.getLast? = some '\r' then line.dropLast else line

/-- The lines of a text; `line` is what was read of the current one, backwards. -/
def linesFrom (line : List Char) : List Char → List (List Char)
  | [] => if line.isEmpty then [] else [line.reverse]
  | '\n' :: rest => withoutReturn line.reverse :: linesFrom [] rest
  | char :: rest => linesFrom (char :: line) rest

/-- The lines of a text; a line feed at its end begins no further line. -/
def sourceLines (chars : List Char) : List (List Char) :=
  linesFrom [] chars

/-- The link at the front of a line: it runs to the next blank. -/
def linkAt (line : List Char) : Option (List Char) :=
  if "http://".toList.isPrefixOf line || "https://".toList.isPrefixOf line then
    some (line.takeWhile fun char => !Text.isBlank char)
  else none

/-- The tokens of a source line. -/
def tokens (table : Emoji.Table) : List Char → List Token
  | [] => []
  | char :: rest =>
      if isInvisible char then tokens table rest
      else
        let link := linkAt (char :: rest)
        match table.probe char rest with
        | some found =>
            ⟨.emoji found.cell, link⟩ :: tokens table (rest.drop found.suffix.length)
        | none => ⟨.glyph char, link⟩ :: tokens table rest
termination_by line => line.length
decreasing_by
  all_goals
    simp only [List.length_drop, List.length_cons]
    omega

end FrameChat.Layout
