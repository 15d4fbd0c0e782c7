import FrameChat.Canvas.Color

/-!
# Canvases

A canvas is a rectangle of pixels, row by row from the top.  Painting goes
through half-open rectangles whose edges may lie anywhere; only what lies on
the canvas is touched.
-/

namespace FrameChat

/-- The half-open rectangle `[left, right) × [top, bottom)`; it is empty if an edge pair is inverted. -/
structure Area where
  (left top right bottom : Int)
  deriving DecidableEq, Repr

/-- Whether a point lies in a rectangle. -/
def Area.Contains (area : Area) (x y : Nat) : Prop :=
  area.left ≤ x ∧ (x : Int) < area.right ∧ area.top ≤ y ∧ (y : Int) < area.bottom

instance (area : Area) (x y : Nat) : Decidable (area.Contains x y) :=
  inferInstanceAs (Decidable (_ ∧ _ ∧ _ ∧ _))

/-- A rectangle of pixels. -/
structure Canvas where
  width : Nat
  height : Nat
  /-- the pixels, row by row -/
  pixels : Array Color
  size_pixels : pixels.size = width * height

namespace Canvas

/-- A canvas of one colour. -/
def blank (width height : Nat) (color : Color) : Canvas :=
  ⟨width, height, Array.replicate (width * height) color, by simp⟩

/-- The canvas whose colours are given by place. -/
def tabulate (width height : Nat) (color : (x y : Nat) → Color) : Canvas where
  width := width
  height := height
  pixels := Array.ofFn fun index : Fin (width * height) => color (index % width) (index / width)
  size_pixels := by simp

/-- The colour of a pixel, if the point lies on the canvas. -/
def pixel? (canvas : Canvas) (x y : Nat) : Option Color :=
  if x < canvas.width ∧ y < canvas.height then canvas.pixels[y * canvas.width + x]? else none

/-- Change `count` neighbouring pixels from a position on. -/
def changeRun (change : Color → Color) : (count position : Nat) → Array Color → Array Color
  | 0, _, pixels => pixels
  | count + 1, position, pixels =>
      changeRun change count (position + 1) (pixels.modify position change)

/-- Change a run of pixels in `count` rows, one below the other. -/
def changeRows (change : Color → Color) (stride length : Nat) :
    (count position : Nat) → Array Color → Array Color
  | 0, _, pixels => pixels
  | count + 1, position, pixels =>
      changeRows change stride length count (position + stride)
        (changeRun change length position pixels)

@[simp]
theorem size_changeRun (change : Color → Color) (count position : Nat) (pixels : Array Color) :
    (changeRun change count position pixels).size = pixels.size := by
  induction count generalizing position pixels with
  | zero => rfl
  | succ count ih => simp [changeRun, ih]

@[simp]
theorem size_changeRows (change : Color → Color) (stride length count position : Nat)
    (pixels : Array Color) :
    (changeRows change stride length count position pixels).size = pixels.size := by
  induction count generalizing position pixels with
  | zero => rfl
  | succ count ih => simp [changeRows, ih]

/-- An edge moved onto the canvas. -/
def clampEdge (edge : Int) (limit : Nat) : Nat :=
  min edge.toNat limit

/-- Change the pixels of a rectangle that lie on the canvas. -/
def change (canvas : Canvas) (area : Area) (change : Color → Color) : Canvas :=
  let left := clampEdge area.left canvas.width
  let right := clampEdge area.right canvas.width
  let top := clampEdge area.top canvas.height
  let bottom := clampEdge area.bottom canvas.height
  { canvas with
    pixels := changeRows change canvas.width (right - left) (bottom - top)
      (top * canvas.width + left) canvas.pixels
    size_pixels := by simp [canvas.size_pixels] }

/-- Overwrite a rectangle. -/
def fill (canvas : Canvas) (area : Area) (color : Color) : Canvas :=
  canvas.change area fun _ => color

/-- Lay a colour over a rectangle. -/
def blend (canvas : Canvas) (area : Area) (color : Color) : Canvas :=
  canvas.change area color.laidOver

/-- Lay a picture over the canvas with its upper left pixel at a place. -/
def overlay (canvas picture : Canvas) (left top : Int) : Canvas :=
  (List.range picture.height).foldl (fun canvas row =>
    (List.range picture.width).foldl (fun canvas column =>
      match picture.pixel? column row with
      | none => canvas
      | some color =>
          let x := left + column
          let y := top + row
          canvas.blend ⟨x, y, x + 1, y + 1⟩ color) canvas) canvas

/-- The part of a canvas of a given size from a pixel on, to the right and below. -/
def crop (canvas : Canvas) (left top width height : Nat) : Canvas :=
  tabulate width height fun x y => (canvas.pixel? (left + x) (top + y)).getD default

@[simp]
theorem width_change (canvas : Canvas) (area : Area) (f : Color → Color) :
    (canvas.change area f).width = canvas.width := rfl

@[simp]
theorem height_change (canvas : Canvas) (area : Area) (f : Color → Color) :
    (canvas.change area f).height = canvas.height := rfl

end Canvas

end FrameChat
