import FrameChat.Layout.Token

/-!
# Layout of one message

The tokens of a text are set into rows from left to right.  A row is broken
before a token that would end beyond the right edge, unless the token is the
first of its row.  Links get a badge with their number in the frame, emoji a
sprite; both are overlays at the pen of their token.  A text of ten rows or
more is cut to nine, with a marker below that names its author.
-/

namespace FrameChat

open Layout in
/-- One row of a layout. -/
structure Layout.Row where
  glyphs : Array Face.PlacedGlyph
  /-- end of the last token, counted from the left edge -/
  width : Float32
  deriving Repr

/-- What an overlay shows. -/
inductive Layout.OverlayKind where
  | link (index : Nat)
  | emoji (cell : Emoji.Cell)
  deriving DecidableEq, Repr

/-- Something drawn over a row at a pen. -/
structure Layout.Overlay where
  kind : Layout.OverlayKind
  x : Float32
  row : Nat
  deriving Repr

/-- The layout of one message. -/
structure Layout where
  rows : Array Layout.Row
  overlays : Array Layout.Overlay
  /-- the line below the rows of a text that was cut -/
  marker : Option String
  /-- the links of the badges, in order -/
  links : Array String
  deriving Repr

namespace Layout

/-- Left edge of message text. -/
def contentLeft : Float32 := 10

/-- Space kept free to the right of message text. -/
def wrapMargin : Nat := 24

/-- Advance of an emoji. -/
def emojiAdvance : Float32 := 30

/-- Links that a frame numbers at most. -/
def maxLinks : Nat := 16

/-- Rows from which on a text is cut. -/
def maxRows : Nat := 10

/-- The right edge of message text. -/
def rightEdge (width : Nat) : Float32 :=
  Float32.ofNat (width - wrapMargin)

/-- Rows on the canvas, the marker included. -/
def rowCount (layout : Layout) : Nat :=
  layout.rows.size + if layout.marker.isSome then 1 else 0

/-- A layout in the making: finished rows, the row being set, and the pen after its last token. -/
structure Setting where
  rows : Array Row
  glyphs : Array Face.PlacedGlyph
  /-- whether the row being set has a token -/
  occupied : Bool
  x : Float32
  /-- the last token of the row, if it is a character -/
  previous : Option Char
  overlays : Array Overlay
  links : Array String

namespace Setting

/-- Before the first row. -/
def start : Setting :=
  ⟨#[], #[], false, contentLeft, none, #[], #[]⟩

/-- Begin a source line. -/
def beginLine (setting : Setting) : Setting :=
  { setting with glyphs := #[], occupied := false, x := contentLeft, previous := none }

/-- Finish the row being set. -/
def finishRow (setting : Setting) : Setting :=
  { setting with
    rows := setting.rows.push ⟨setting.glyphs, setting.x - contentLeft⟩
    glyphs := #[] }

/-- How far an item advances the pen. -/
def advanceOf (face : Face) : Item → Float32
  | .glyph char => face.advance char
  | .emoji _ => emojiAdvance

/-- The pen of the next item if it stays in the row: two characters are kerned. -/
def penFor (face : Face) (setting : Setting) : Item → Float32
  | .emoji _ => setting.x
  | .glyph char =>
      match setting.previous with
      | some previous => setting.x + face.kern previous char
      | none => setting.x

/-- Set one token. -/
def place (face : Face) (right : Float32) (linkBase : Nat) (setting : Setting) (token : Token) :
    Setting :=
  let advance := advanceOf face token.item
  let inRow := setting.penFor face token.item
  let breaks := setting.occupied && decide (right < inRow + advance)
  let pen := if breaks then contentLeft else inRow
  let setting := if breaks then setting.finishRow else setting
  let row := setting.rows.size
  let setting :=
    match token.link with
    | some link =>
        if linkBase + setting.links.size < maxLinks then
          { setting with
            overlays := setting.overlays.push ⟨.link (linkBase + setting.links.size), pen, row⟩
            links := setting.links.push (String.ofList link) }
        else setting
    | none => setting
  match token.item with
  | .emoji cell =>
      { setting with
        overlays := setting.overlays.push ⟨.emoji cell, pen, row⟩
        previous := none, x := pen + advance, occupied := true }
  | .glyph char =>
      { setting with
        glyphs := setting.glyphs.push ⟨char, pen⟩
        previous := some char, x := pen + advance, occupied := true }

/-- Set a source line. -/
def setLine (face : Face) (table : Emoji.Table) (right : Float32) (linkBase : Nat)
    (setting : Setting) (line : List Char) : Setting :=
  ((tokens table line).foldl (place face right linkBase) setting.beginLine).finishRow

/-- The layout when all is set. -/
def layout (setting : Setting) : Layout :=
  ⟨setting.rows, setting.overlays, none, setting.links⟩

end Setting

/-- The layout of a text before it is cut. -/
def whole (face : Face) (table : Emoji.Table) (text : String) (width linkBase : Nat) : Layout :=
  ((sourceLines (expandTabs text.toList)).foldl
    (Setting.setLine face table (rightEdge width) linkBase) Setting.start).layout

/-- Whether an overlay is a link badge. -/
def Overlay.isLink (overlay : Overlay) : Bool :=
  match overlay.kind with
  | .link _ => true
  | .emoji _ => false

/-- The marker of a text by a given author that was cut. -/
def markerFor (author : String) : String :=
  "more — " ++ author

/-- Keep the first nine rows, and the overlays and links on them. -/
def cut (layout : Layout) (author : String) : Layout :=
  let overlays := layout.overlays.filter fun overlay => overlay.row < maxRows - 1
  let badges := (overlays.filter Overlay.isLink).size
  { rows := layout.rows.take (maxRows - 1)
    overlays
    marker := some (markerFor author)
    links := layout.links.take badges }

/-- Lay out a message for a canvas of a given width, when `linkBase` links are already numbered. -/
def ofText (face : Face) (table : Emoji.Table) (text : String) (width : Nat) (author : String)
    (linkBase : Nat) : Layout :=
  let layout := whole face table text width linkBase
  if maxRows ≤ layout.rows.size then layout.cut author else layout

end Layout

end FrameChat
