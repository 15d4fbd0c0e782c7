import FrameChat.Layout
import FrameChat.Picture.Scene
import FrameChat.Picture.Sheet
import FrameChat.Picture.Viewport
import FrameChat.Text.Hex

/-!
# Composition of the message area

Messages are stacked upward from the status bar, newest first, until the stack
leaves the picture.  A notice of presence is one centred line.  A written
message is a header with author and time above its laid-out rows, and every
other one stands on a gray band.  Links are numbered through the whole picture
in the order of the stack.
-/

namespace FrameChat.Composition

/-- Distance of baselines. -/
def lineHeight : Nat := 22

/-- Height of the status bar. -/
def barHeight : Nat := lineHeight * 3 / 2

/-- Space around messages. -/
def margin : Nat := 4

/-- Edge of a link badge. -/
def badgeEdge : Int := 16

/-- Distance from one message to the next. -/
def messageGap : Int := (lineHeight * 5 / 4 : Nat)

/-- The lowest baseline of the stack. -/
def lowest : Int := (Viewport.height - margin * 2 - barHeight : Nat)

/-- A message with its place in the stack. -/
inductive Block where
  /-- one centred line -/
  | presence (baseline : Int) (author tail : String)
  /-- rows from a baseline on, below a header -/
  | written (top : Int) (banded : Bool) (layout : Layout) (author stamp : String)

/-- The links that a block numbers. -/
def Block.links : Block → List String
  | .presence .. => []
  | .written _ _ layout _ _ => layout.links.toList

/-- The second half of a presence line. -/
def presenceTail (message : Message) : String :=
  let verb := if message.kind = .join then "joined" else "left"
  s!" {verb} at {message.time.shown CalendarTime.hourMinute}"

/-- The time in a header: the clock on the day of the picture, day and clock on another. -/
def stamp (time now : Seconds) : String :=
  match CalendarTime.of? time, CalendarTime.of? now with
  | some written, some current =>
      if written.day = current.day then written.hourMinuteSecond else written.monthDayHourMinute
  | _, _ => time.shown CalendarTime.monthDayHourMinute

/-- The baseline of the first of some rows whose last one stands on `y`. -/
def topOf (y : Int) (rows : Nat) : Int :=
  y - (rows * lineHeight - lineHeight : Int)

/--
Stack messages, newest first, each with its position in the log, from baseline
`y` upward; `linkBase` links are already numbered.
-/
def stack (face : Face) (table : Emoji.Table) (viewport : Viewport) (now : Seconds) :
    (messages : List (Message × Nat)) → (y : Int) → (linkBase : Nat) → List Block
  | [], _, _ => []
  | (message, index) :: older, y, linkBase =>
      if message.kind.isPresence then
        let next := y - messageGap
        .presence y message.author (presenceTail message) ::
          if next < 0 then [] else stack face table viewport now older next linkBase
      else
        let layout := Layout.ofText face table message.text viewport.width message.author linkBase
        let top := topOf y layout.rowCount
        let next := top - lineHeight - messageGap
        .written top (index % 2 = 0) layout message.author (stamp message.time now) ::
          if next < 0 then []
          else stack face table viewport now older next (linkBase + layout.links.size)

/-- The blocks of a scene, newest first. -/
def blocks (face : Face) (table : Emoji.Table) (viewport : Viewport) (scene : Scene) : List Block :=
  stack face table viewport scene.now scene.messages.zipIdx.reverse lowest 0

/-- The links of blocks, in the order of their badges. -/
def linksOf (blocks : List Block) : List String :=
  blocks.flatMap Block.links

/-- The upper edge of the cell of a row. -/
def cellTop (top : Int) (row : Nat) : Int :=
  top + row * lineHeight - lineHeight

/-- The sheet of an overlay.  Without an atlas an emoji is a plain tile. -/
def overlaySheet (face : Face) (hasAtlas : Bool) (top : Int) (overlay : Layout.Overlay) : Sheet :=
  let x := nearest overlay.x
  let cellTop := cellTop top overlay.row
  match overlay.kind with
  | .link index => Sheet.ofFitting do
      let right ← fitting? (x + badgeEdge)
      let label := Text.Hex.ofNat index
      let labelPen := Float32.ofInt x + (Float32.ofInt badgeEdge - face.measure label) / 2
      return Sheet.one (.blend ⟨x, cellTop + 4, right, cellTop + 4 + badgeEdge⟩ Color.badge) ++
        (Sheet.ofText face labelPen (cellTop + 17) label Color.white).1
  | .emoji cell => Sheet.ofFitting do
      let left ← fitting? (x + 3)
      let top := cellTop + 4
      if hasAtlas then
        return Sheet.one (.sprite cell left top)
      else
        let edge : Int := Emoji.cellEdge
        let right ← fitting? (left + edge)
        return Sheet.one (.fill ⟨left + 2, top + 2, right - 2, top + edge - 2⟩ Color.wheat)

/-- The sheet of the rows, the marker and the overlays of a message. -/
def bodySheet (face : Face) (hasAtlas : Bool) (viewport : Viewport) (layout : Layout) (top : Int) :
    Sheet :=
  let rows := layout.rows.toList.zipIdx.map fun (row, position) =>
    Sheet.concat (row.glyphs.toList.map
      (Sheet.ofGlyph face (top + position * lineHeight) Color.black))
  let marker :=
    match layout.marker with
    | none => Sheet.empty
    | some marker =>
        let pen := Float32.ofNat viewport.width - face.measure marker - Layout.contentLeft
        (Sheet.ofText face pen (top + layout.rows.size * lineHeight) marker Color.grayText).1
  Sheet.concat rows ++ marker ++
    Sheet.concat (layout.overlays.toList.map (overlaySheet face hasAtlas top))

/-- The sheet of a block. -/
def Block.sheet (face : Face) (hasAtlas : Bool) (viewport : Viewport) : Block → Sheet
  | .presence baseline author tail =>
      let total := face.measure author + face.measure tail
      let pen := ((Float32.ofNat viewport.width - total) / 2).round
      let (name, pen) := Sheet.ofText face pen baseline author Color.blue
      name ++ (Sheet.ofText face pen baseline tail Color.black).1
  | .written top banded layout author stamp =>
      let rows := layout.rowCount
      let band :=
        if banded then
          Sheet.one (.fill ⟨0, top - lineHeight * 2, viewport.width,
            top + rows * lineHeight - (lineHeight * 5 / 8 : Nat)⟩ Color.grayBand)
        else Sheet.empty
      let header := top - lineHeight
      let (name, pen) :=
        Sheet.ofText face (Float32.ofNat margin) header author Color.blue
      let time :=
        (Sheet.ofText face (pen + Float32.ofNat (margin * 2)) header stamp Color.black).1
      band ++ bodySheet face hasAtlas viewport layout top ++ name ++ time

end FrameChat.Composition
