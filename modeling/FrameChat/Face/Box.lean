import FrameChat.Face
import FrameChat.Text.Blank

/-!
# A face of boxes

A font whose outlines are axis-parallel boxes on whole pixels.  A pen has four
positions within a pixel; between pixels the first and the last column of a
box are covered in part.  A box may have a colour of its own, which then takes
the place of the colour of the text.
-/

namespace FrameChat

/-- One glyph: its advance, its box above the baseline, and its own colour. -/
structure BoxGlyph where
  advance : Int
  /-- left, lower, right and upper edge, counted from the pen and upward from the baseline -/
  box : Option (Int × Int × Int × Int)
  color : Option Color
  deriving Repr

/-- A font of boxes. -/
structure BoxFont where
  /-- the glyph of characters that the font lacks -/
  missing : BoxGlyph
  glyphs : List (Char × BoxGlyph)
  kerns : List ((Char × Char) × Int)
  deriving Repr

namespace BoxFont

/-- The glyph of a character. -/
def glyph (font : BoxFont) (char : Char) : BoxGlyph :=
  (font.glyphs.lookup char).getD font.missing

/-- Whether a font has a glyph for a character. -/
def has (font : BoxFont) (char : Char) : Bool :=
  (font.glyphs.lookup char).isSome

/-- Kerning of two neighbours; a character that the font lacks is never kerned. -/
def kern (font : BoxFont) (previous char : Char) : Int :=
  if font.has previous && font.has char then (font.kerns.lookup (previous, char)).getD 0 else 0

/-- Width of a line: its advances and the kerning of its neighbours. -/
def lineWidth (font : BoxFont) : List Char → Int
  | [] => 0
  | [char] => (font.glyph char).advance
  | first :: second :: rest =>
      (font.glyph first).advance + font.kern first second + lineWidth font (second :: rest)

/-- Width of the widest line of a text. -/
def width (font : BoxFont) (text : String) : Int :=
  ((text.splitOn "\n").map fun line => font.lineWidth line.toList).foldl max 0

/-- What the width of two neighbours differs by from their widths apart; no width is negative. -/
def pairKern (font : BoxFont) (previous char : Char) : Int :=
  font.width (String.ofList [previous, char]) - font.width (String.singleton previous) -
    font.width (String.singleton char)

/-- Whole part of a pen and its quarter; the whole part may leave 32 bits by one. -/
def quarter (pen : Float32) : Int × Nat :=
  let whole := pen.toInt32.toInt
  let part := pen - Float32.ofInt whole
  if pen.toBits < 0x80000000 then
    if part < 0.125 then (whole, 0)
    else if part < 0.375 then (whole, 1)
    else if part < 0.625 then (whole, 2)
    else if part < 0.875 then (whole, 3)
    else (whole + 1, 0)
  else if -0.125 < part then (whole, 0)
  else if -0.375 < part then (whole - 1, 3)
  else if -0.625 < part then (whole - 1, 2)
  else if -0.875 < part then (whole - 1, 1)
  else (whole - 1, 0)

/-- A fraction of 256 of a channel. -/
def scaled (share : Nat) (channel : Nat) : Nat :=
  share * channel / 256

/-- What a glyph lays over a pixel that it covers in part: text colour, or its own colour dimmed. -/
def stain (own : Option Color) (text : Color) (coverage : Nat) : Option Color :=
  match own with
  | none => some { text with a := UInt8.ofNat coverage }
  | some own =>
      let share := scaled coverage own.a.toNat
      let alpha := scaled share 255
      if alpha = 0 then none
      else
        some ⟨UInt8.ofNat (scaled share own.r.toNat), UInt8.ofNat (scaled share own.g.toNat),
          UInt8.ofNat (scaled share own.b.toNat), UInt8.ofNat alpha⟩

/-- Pixels from the top of a line of text down to its baseline. -/
def lineAscent : Int := 16

/--
The row of a baseline.  It is computed from the top of the line, which is a
single-precision number and exact only near the canvas.
-/
def baselineRow (baseline : Int) : Except Overflow Int :=
  let top := Float32.ofInt baseline - Float32.ofInt lineAscent
  fittingBy .adding (top.toInt32.toInt + lineAscent)

/-- The strokes of a glyph at a whole pen and a quarter. -/
def strokes (glyph : BoxGlyph) (color : Color) (whole row : Int) (quarter : Nat) : List Stroke :=
  match glyph.box with
  | none => []
  | some (x0, y0, x1, y1) =>
      let columns (left right : Int) (coverage : Nat) : List Stroke :=
        match stain glyph.color color coverage with
        | none => []
        | some stain => [⟨⟨whole + left, row - y1, whole + right, row - y0⟩, stain, false⟩]
      if quarter = 0 then columns x0 x1 255
      else
        columns x0 (x0 + 1) (256 - 64 * quarter) ++ columns (x0 + 1) x1 255 ++
          (if glyph.color.isSome then [] else columns x1 (x1 + 1) (64 * quarter))

/-- Check that the last column and the last row of an area fit, unless it is empty. -/
def checkArea (area : Area) : Except Overflow Unit :=
  if area.left < area.right ∧ area.top < area.bottom then do
    let _ ← fittingBy .adding (area.right - 1)
    let _ ← fittingBy .adding (area.bottom - 1)
  else .ok ()

/--
The strokes of a character: none for white space.  The pen, the left edge, the
baseline, the upper edge and the pixels that are inked have to fit, in this
order.
-/
def ink (font : BoxFont) (char : Char) (pen : Float32) (baseline : Int) (color : Color) :
    Except Overflow (List Stroke) :=
  if Text.isBlank char then .ok []
  else do
    let glyph := font.glyph char
    let (whole, quarter) := quarter pen
    let whole ← fittingBy (if 0 ≤ whole then .adding else .subtracting) whole
    let (left, upper) := match glyph.box with
      | none => (0, 0)
      | some (x0, _, _, y1) => (x0, y1)
    let _ ← fittingBy .adding (whole + left)
    let row ← baselineRow baseline
    let _ ← fittingBy .subtracting (row - upper)
    let strokes := strokes glyph color whole row quarter
    for stroke in strokes do checkArea stroke.area
    return strokes

/-- The face of a font of boxes. -/
def face (font : BoxFont) : Face where
  advance char := Float32.ofInt (font.width (String.singleton char))
  kern previous char := Float32.ofInt (font.pairKern previous char)
  measure text := Float32.ofInt (font.width text)
  ink := font.ink

end BoxFont

end FrameChat
