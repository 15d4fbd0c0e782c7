import FrameChat.Emoji.Table
import FrameChat.Face

/-!
# Sheets

A picture is first described, as the sequence of marks that are made on a white
canvas, and painted only when its pixels are wanted.  A drawing whose positions
leave 32 bits stops; the sheet then ends there and is marked as faulted.
-/

namespace FrameChat

/-- One thing put on a canvas. -/
inductive Mark where
  | fill (area : Area) (color : Color)
  | blend (area : Area) (color : Color)
  | glyph (char : Char) (pen : Float32) (baseline : Int) (color : Color) (strokes : List Stroke)
  | sprite (cell : Emoji.Cell) (left top : Int)
  deriving Repr

/-- Marks in the order in which they are made, and whether drawing stopped after them. -/
structure Sheet where
  marks : List Mark
  faulted : Bool
  deriving Repr

namespace Sheet

/-- Nothing drawn. -/
def empty : Sheet :=
  ⟨[], false⟩

/-- A single mark. -/
def one (mark : Mark) : Sheet :=
  ⟨[mark], false⟩

/-- Drawing stops. -/
def fault : Sheet :=
  ⟨[], true⟩

/-- Draw one sheet and, unless it faulted, the next. -/
def append (first second : Sheet) : Sheet :=
  if first.faulted then first else ⟨first.marks ++ second.marks, second.faulted⟩

instance : Append Sheet := ⟨append⟩

/-- Draw sheets in order up to the first fault. -/
def concat (sheets : List Sheet) : Sheet :=
  sheets.foldr append empty

/-- Draw at positions that fit; otherwise stop. -/
def ofFitting (sheet : Option Sheet) : Sheet :=
  sheet.getD fault

@[simp]
theorem faulted_append (first second : Sheet) :
    (first ++ second).faulted = (first.faulted || second.faulted) := by
  show (append first second).faulted = _
  unfold append
  split <;> simp_all

/-- The marks of two sheets that are drawn without fault follow one another. -/
theorem marks_append {first : Sheet} (sound : first.faulted = false) (second : Sheet) :
    (first ++ second).marks = first.marks ++ second.marks := by
  show (append first second).marks = _
  simp [append, sound]

/-- The sheet of one character. -/
def ofGlyph (face : Face) (baseline : Int) (color : Color) (glyph : Face.PlacedGlyph) : Sheet :=
  match face.ink glyph.char glyph.x baseline color with
  | .ok strokes => one (.glyph glyph.char glyph.x baseline color strokes)
  | .error _ => ⟨[.glyph glyph.char glyph.x baseline color []], true⟩

/-- The sheet of a text drawn in one run, and the pen after it. -/
def ofText (face : Face) (pen : Float32) (baseline : Int) (text : String) (color : Color) :
    Sheet × Float32 :=
  let (glyphs, last) := face.runOf pen text
  (concat (glyphs.map (ofGlyph face baseline color)), last)

/-- A character that was drawn: what it is and where. -/
structure DrawnGlyph where
  char : Char
  pen : Float32
  baseline : Int
  color : Color

/-- The characters of a sheet in the order in which they were drawn. -/
def glyphs (sheet : Sheet) : List DrawnGlyph :=
  sheet.marks.filterMap fun
    | .glyph char pen baseline color _ => some ⟨char, pen, baseline, color⟩
    | _ => none

/-- Put a stroke on a canvas. -/
def paintStroke (canvas : Canvas) (stroke : Stroke) : Canvas :=
  if stroke.covers then canvas.fill stroke.area stroke.color
  else canvas.blend stroke.area stroke.color

/-- Put the sprite of a cell on a canvas; a cell that the atlas lacks leaves nothing. -/
def paintSprite (atlas : Option Canvas) (canvas : Canvas) (cell : Emoji.Cell) (left top : Int) :
    Canvas :=
  match atlas with
  | none => canvas
  | some atlas =>
      if atlas.width < cell.x + Emoji.cellEdge ∨ atlas.height < cell.y + Emoji.cellEdge then canvas
      else
        canvas.overlay (atlas.crop cell.x cell.y Emoji.cellEdge Emoji.cellEdge) left top

/-- Put a mark on a canvas. -/
def paintMark (atlas : Option Canvas) (canvas : Canvas) : Mark → Canvas
  | .fill area color => canvas.fill area color
  | .blend area color => canvas.blend area color
  | .glyph _ _ _ _ strokes => strokes.foldl paintStroke canvas
  | .sprite cell left top => paintSprite atlas canvas cell left top

/-- Paint a sheet on a canvas. -/
def paint (sheet : Sheet) (atlas : Option Canvas) (canvas : Canvas) : Canvas :=
  sheet.marks.foldl (paintMark atlas) canvas

end Sheet

end FrameChat
