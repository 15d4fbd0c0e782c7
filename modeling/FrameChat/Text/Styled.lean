import FrameChat.Text.ControlSequence

/-!
# Styled reports

A report for a person at a terminal sets pieces of itself off by weight and
colour.  Styles are control sequences around a piece; where no terminal reads
along they are taken out again, together with the control sequences that the
pieces themselves may hold.
-/

namespace FrameChat.Text.Styled

/-- How a piece is set off. -/
inductive Style where
  | plain
  /-- the word that a report begins with -/
  | alarm
  /-- what a reader did wrong -/
  | wrong
  /-- what a reader can write instead -/
  | right
  /-- what is written as it stands -/
  | literal
  /-- the title of a section -/
  | title
  deriving DecidableEq, Repr

namespace Style

/-- The control sequences before a piece. -/
def opening : Style → String
  | .plain => ""
  | .alarm => "\x1b[1m\x1b[31m"
  | .wrong => "\x1b[33m"
  | .right => "\x1b[32m"
  | .literal => "\x1b[1m"
  | .title => "\x1b[1m\x1b[4m"

/-- The control sequences behind a piece. -/
def closing : Style → String
  | .plain => ""
  | _ => "\x1b[0m"

end Style

/-- A text in one style. -/
structure Piece where
  style : Style
  text : String
  deriving DecidableEq, Repr

/-- A piece as a terminal takes it. -/
def Piece.sequence (piece : Piece) : String :=
  piece.style.opening ++ piece.text ++ piece.style.closing

/-- A text that is not set off. -/
def plain (text : String) : List Piece :=
  [⟨.plain, text⟩]

/-- A text in quotes, of which only what is quoted is set off. -/
def quoted (style : Style) (text : String) : List Piece :=
  [⟨.plain, "'"⟩, ⟨style, text⟩, ⟨.plain, "'"⟩]

/-- Pieces without their styles. -/
def unstyled (pieces : List Piece) : String :=
  ControlSequence.stripped (String.join (pieces.map Piece.sequence))

end FrameChat.Text.Styled
