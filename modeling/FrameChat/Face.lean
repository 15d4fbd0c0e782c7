import FrameChat.Canvas

/-!
# Faces

A face knows how wide each character is, how two neighbours are kerned, and
what to put on a canvas for a character.  Widths and pens are single-precision
numbers, and every sum is taken in the order in which characters are met.

Drawing computes pixel positions in 32 bits; a position outside that range is
a fault of the drawing, which then stops.
-/

namespace FrameChat

/-- Characters that are passed over: carriage return, joiner and variation selectors. -/
def isInvisible (char : Char) : Bool :=
  char = '\r' || char = '\u200D' || ('\uFE00' ≤ char && char ≤ '\uFE0F')

/-- The operation by which a pixel position left 32 bits. -/
inductive Overflow where
  | adding
  | subtracting
  deriving DecidableEq, Repr

/-- How it is worded that a position left 32 bits. -/
def Overflow.message : Overflow → String
  | .adding => "attempt to add with overflow"
  | .subtracting => "attempt to subtract with overflow"

/-- A pixel position that fits in 32 bits. -/
def fitting? (position : Int) : Option Int :=
  if Int32.minValue.toInt ≤ position ∧ position ≤ Int32.maxValue.toInt then some position else none

/-- A pixel position that an operation led to, if it fits in 32 bits. -/
def fittingBy (operation : Overflow) (position : Int) : Except Overflow Int :=
  match fitting? position with
  | some position => .ok position
  | none => .error operation

/-- The whole number nearest to a pen, halves away from zero, kept within 32 bits. -/
def nearest (pen : Float32) : Int :=
  let whole := pen.abs.toUInt32.toNat
  let distance : Nat := if 0.5 ≤ pen.abs - Float32.ofNat whole then whole + 1 else whole
  if pen < 0 then max (-distance) Int32.minValue.toInt else min distance Int32.maxValue.toInt

/-- A rectangle of one colour that a character leaves on a canvas. -/
structure Stroke where
  area : Area
  color : Color
  /-- whether the colour covers, or is laid over by its opacity -/
  covers : Bool
  deriving DecidableEq, Repr

/-- Metrics and ink of one font at one size. -/
structure Face where
  advance : Char → Float32
  kern : Char → Char → Float32
  /-- width of a text drawn in one run -/
  measure : String → Float32
  /-- strokes of a character with its pen on a baseline -/
  ink : Char → Float32 → Int → Color → Except Overflow (List Stroke)

namespace Face

/-- The visible characters of a text. -/
def visible (text : String) : List Char :=
  text.toList.filter fun char => !isInvisible char

/-- Width of the rest of a run whose part before `previous` is `width` wide. -/
def runWidth (advance : Char → Float32) (kern : Char → Char → Float32)
    (width : Float32) (previous : Option Char) : List Char → Float32
  | [] => width
  | char :: rest =>
      let kerned := match previous with
        | none => width
        | some previous => width + kern previous char
      runWidth advance kern (kerned + advance char) (some char) rest

/-- A visible character and the pen it is drawn at. -/
structure PlacedGlyph where
  char : Char
  x : Float32
  deriving Repr

/-- The pens of a run, and the pen after it. -/
def run (face : Face) (pen : Float32) (previous : Option Char) :
    List Char → List PlacedGlyph × Float32
  | [] => ([], pen)
  | char :: rest =>
      let kerned := match previous with
        | none => pen
        | some previous => pen + face.kern previous char
      let (glyphs, last) := run face (kerned + face.advance char) (some char) rest
      (⟨char, kerned⟩ :: glyphs, last)

/-- The pens of a text drawn in one run, and the pen after it. -/
def runOf (face : Face) (pen : Float32) (text : String) : List PlacedGlyph × Float32 :=
  face.run pen none (visible text)

end Face

end FrameChat
