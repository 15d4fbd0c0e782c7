import FrameChat.Canvas
import Mathlib.Data.List.Nodup
import Mathlib.Data.List.ProdSigma

/-!
# What painting an area changes

Painting an area goes through neighbouring pixels, row by row.  That is the same as going to
the places of the area that lie on the canvas, one after the other, with an access that fails
off the canvas (`touch?`): no access fails, and each place is met once.  So exactly these
pixels change, each of them once.

* `foldlM_touch?_places`: an area is painted by visits to its places.
* `changeInWords?_eq`: its edges can be moved onto the canvas with 32-bit numbers.
* `pixel?_of_visits`: what visits to different places make of a canvas.
* `painted_exactly`: both together, for covering an area and for laying a colour over it.
-/

namespace FrameChat.Canvas

variable {canvas after : Canvas} {area : Area} {f : Color → Color} {x y : Nat}

/-! ## Places -/

theorem clampEdge_le_iff {edge : Int} {limit : Nat} (within : x < limit) :
    clampEdge edge limit ≤ x ↔ edge ≤ x := by
  rw [clampEdge]
  omega

theorem lt_clampEdge_iff {edge : Int} {limit : Nat} :
    x < clampEdge edge limit ↔ (x : Int) < edge ∧ x < limit := by
  rw [clampEdge]
  omega

/-- The places of an area that lie on the canvas, row by row; a place is a row and a column. -/
def places (canvas : Canvas) (area : Area) : List (Nat × Nat) :=
  let left := clampEdge area.left canvas.width
  let right := clampEdge area.right canvas.width
  let top := clampEdge area.top canvas.height
  let bottom := clampEdge area.bottom canvas.height
  List.range' top (bottom - top) ×ˢ List.range' left (right - left)

/-- Moving the edges onto the canvas leaves the points that are in the area and on the canvas. -/
theorem mem_places_iff :
    (y, x) ∈ canvas.places area ↔ (x < canvas.width ∧ y < canvas.height) ∧ area.Contains x y := by
  have between {low high place : Nat} :
      low ≤ place ∧ place < low + (high - low) ↔ low ≤ place ∧ place < high := by omega
  rw [places, List.mem_product, List.mem_range'_1, List.mem_range'_1, between, between,
    lt_clampEdge_iff, lt_clampEdge_iff, Area.Contains]
  constructor
  · rintro ⟨⟨top, bottom, row⟩, left, right, column⟩
    exact ⟨⟨column, row⟩, (clampEdge_le_iff column).mp left, right,
      (clampEdge_le_iff row).mp top, bottom⟩
  · rintro ⟨⟨column, row⟩, left, right, top, bottom⟩
    exact ⟨⟨(clampEdge_le_iff row).mpr top, bottom, row⟩,
      (clampEdge_le_iff column).mpr left, right, column⟩

theorem nodup_places (canvas : Canvas) (area : Area) : (canvas.places area).Nodup :=
  List.Nodup.product List.nodup_range' List.nodup_range'

/-! ## Visits -/

/-- Change the pixel at a place; off the canvas there is none. -/
def touch? (f : Color → Color) (canvas : Canvas) (place : Nat × Nat) : Option Canvas :=
  if place.1 < canvas.height ∧ place.2 < canvas.width then
    some { canvas with
      pixels := canvas.pixels.modify (place.1 * canvas.width + place.2) f
      size_pixels := by simp [canvas.size_pixels] }
  else none

/-- Neighbouring pixels of one row are changed by visits to them. -/
theorem foldlM_touch?_run (f : Color → Color) (canvas : Canvas) (row : y < canvas.height)
    {count : Nat} (fits : x + count ≤ canvas.width) :
    ((List.range' x count).map (Prod.mk y)).foldlM (touch? f) canvas =
      some { canvas with
        pixels := changeRun f count (y * canvas.width + x) canvas.pixels
        size_pixels := by simp [canvas.size_pixels] } := by
  induction count generalizing canvas x with
  | zero => rfl
  | succ count ih =>
      rw [List.range'_succ, List.map_cons, List.foldlM_cons, touch?,
        if_pos ⟨row, show x < canvas.width by omega⟩, Option.bind_eq_bind, Option.bind_some]
      exact ih _ row (by show x + 1 + count ≤ canvas.width; omega)

/-- So are rows that lie one below the other. -/
theorem foldlM_touch?_rows (f : Color → Color) (canvas : Canvas) {length count : Nat}
    (fits : x + length ≤ canvas.width) (rows : y + count ≤ canvas.height) :
    (List.range' y count ×ˢ List.range' x length).foldlM (touch? f) canvas =
      some { canvas with
        pixels := changeRows f canvas.width length count (y * canvas.width + x) canvas.pixels
        size_pixels := by simp [canvas.size_pixels] } := by
  induction count generalizing canvas y with
  | zero => rfl
  | succ count ih =>
      have below : (y + 1) * canvas.width + x = y * canvas.width + x + canvas.width := by
        rw [Nat.succ_mul]
        omega
      rw [List.range'_succ, List.product_cons, List.foldlM_append,
        foldlM_touch?_run f canvas (by omega) fits, Option.bind_eq_bind, Option.bind_some]
      simp only [changeRows, ← below]
      exact ih _ fits (by show y + 1 + count ≤ canvas.height; omega)

/-- Painting an area never leaves the canvas: it is the same as to visit its places. -/
theorem foldlM_touch?_places (f : Color → Color) (canvas : Canvas) (area : Area) :
    (canvas.places area).foldlM (touch? f) canvas = some (canvas.change area f) := by
  have within (edge other : Int) (limit : Nat) :
      clampEdge edge limit + (clampEdge other limit - clampEdge edge limit) ≤ limit := by
    rw [clampEdge, clampEdge]
    omega
  exact foldlM_touch?_rows f canvas (within _ _ _) (within _ _ _)

/-! ## Edges in 32 bits -/

/--
Move an edge onto a canvas with signed numbers of 32 bits.  That fails if the side of the canvas
is read as a negative number.
-/
def clampEdge? (edge : Int32) (limit : Nat) : Option Nat :=
  let bound := Int32.ofNat limit
  if bound < 0 then none
  else if edge < 0 then some 0
  else some (if bound < edge then bound else edge).toNatClampNeg

/-- Visit the places between edges that are signed numbers of 32 bits. -/
def changeInWords? (canvas : Canvas) (left top right bottom : Int32) (f : Color → Color) :
    Option Canvas := do
  let left ← clampEdge? left canvas.width
  let right ← clampEdge? right canvas.width
  let top ← clampEdge? top canvas.height
  let bottom ← clampEdge? bottom canvas.height
  (List.range' top (bottom - top) ×ˢ List.range' left (right - left)).foldlM (touch? f) canvas

theorem clampEdge?_eq (edge : Int32) {limit : Nat} (fits : (limit : Int) ≤ Int32.maxValue.toInt) :
    clampEdge? edge limit = some (clampEdge edge.toInt limit) := by
  have greatest : Int32.maxValue.toInt = 2147483647 := rfl
  have bound : (Int32.ofNat limit).toInt = limit := Int32.toInt_ofNat_of_lt (by omega)
  have zero : (0 : Int32).toInt = 0 := rfl
  simp only [clampEdge?, clampEdge, Int32.lt_iff_toInt_lt, bound, zero]
  rw [if_neg (by omega)]
  split
  case isTrue => exact congrArg some (by omega)
  case isFalse =>
    refine congrArg some ?_
    rw [← Int32.toNat_toInt]
    split
    · rw [bound]
      omega
    · omega

/-- On a canvas whose sides are such numbers, nothing fails wherever the edges are. -/
theorem changeInWords?_eq (f : Color → Color) (canvas : Canvas)
    (wide : canvas.width ≤ Int32.maxValue.toInt) (high : canvas.height ≤ Int32.maxValue.toInt)
    (left top right bottom : Int32) :
    canvas.changeInWords? left top right bottom f =
      some (canvas.change ⟨left.toInt, top.toInt, right.toInt, bottom.toInt⟩ f) := by
  simp only [changeInWords?, clampEdge?_eq _ wide, clampEdge?_eq _ high, Option.bind_eq_bind,
    Option.bind_some]
  exact foldlM_touch?_places f canvas ⟨left.toInt, top.toInt, right.toInt, bottom.toInt⟩

/-! ## Pixels -/

theorem isSome_pixel?_iff :
    (canvas.pixel? x y).isSome ↔ x < canvas.width ∧ y < canvas.height := by
  rw [pixel?]
  split
  case isTrue within =>
    have inRow : (y + 1) * canvas.width ≤ canvas.height * canvas.width :=
      Nat.mul_le_mul_right _ within.2
    have stored : y * canvas.width + x < canvas.pixels.size := by
      rw [canvas.size_pixels, Nat.mul_comm canvas.width]
      rw [Nat.succ_mul] at inRow
      omega
    simp [within, stored]
  case isFalse off => simp [off]

/-- Different places of a canvas are kept at different positions. -/
theorem position_eq_iff {width row column : Nat} (inRow : x < width) (other : column < width) :
    row * width + column = y * width + x ↔ (y, x) = (row, column) := by
  constructor
  · intro same
    have sameColumn : column = x := by
      have rest := congrArg (· % width) same
      simpa [Nat.mul_add_mod', Nat.mod_eq_of_lt, inRow, other] using rest
    subst sameColumn
    have sameRow : row = y :=
      Nat.eq_of_mul_eq_mul_right (Nat.zero_lt_of_lt inRow) (Nat.add_right_cancel same)
    rw [sameRow]
  · rintro ⟨⟩
    rfl

/-- A visit changes the pixel at its place, and no other one. -/
theorem pixel?_of_visit {place : Nat × Nat} (visited : canvas.touch? f place = some after) :
    after.pixel? x y = if (y, x) = place then (canvas.pixel? x y).map f else canvas.pixel? x y := by
  rcases place with ⟨row, column⟩
  rw [touch?] at visited
  split at visited
  case isFalse => cases visited
  case isTrue within =>
    cases visited
    simp only [pixel?]
    by_cases here : x < canvas.width ∧ y < canvas.height
    · rw [if_pos here, if_pos here, Array.getElem?_modify]
      simp only [position_eq_iff here.1 within.2]
    · simp [here]

/-- Visits to different places change the pixels there, each of them once. -/
theorem pixel?_of_visits {places : List (Nat × Nat)} (distinct : places.Nodup)
    (visited : places.foldlM (touch? f) canvas = some after) (x y : Nat) :
    after.pixel? x y =
      if (y, x) ∈ places then (canvas.pixel? x y).map f else canvas.pixel? x y := by
  induction places generalizing canvas with
  | nil =>
      cases visited
      simp
  | cons place rest ih =>
      rw [List.foldlM_cons, Option.bind_eq_bind, Option.bind_eq_some_iff] at visited
      rcases visited with ⟨middle, first, others⟩
      rw [List.nodup_cons] at distinct
      rw [ih distinct.2 others, pixel?_of_visit first]
      by_cases here : (y, x) = place
      · subst here
        simp [distinct.1]
      · simp [here]

/-- In a painted area each pixel is changed once, and outside of it none is. -/
theorem pixel?_change (canvas : Canvas) (area : Area) (f : Color → Color) (x y : Nat) :
    (canvas.change area f).pixel? x y =
      (canvas.pixel? x y).map fun color => if area.Contains x y then f color else color := by
  rw [pixel?_of_visits (canvas.nodup_places area) (foldlM_touch?_places f canvas area) x y]
  simp only [mem_places_iff, ← isSome_pixel?_iff]
  cases canvas.pixel? x y <;> by_cases inside : area.Contains x y <;> simp [inside]

/--
Whatever the canvas and wherever the edges of an area lie: the pixels of the canvas that are in
the area get the colour, or have it laid over them once, and all other pixels and the size of
the canvas stay.  Painting an area is the same as to visit its places on the canvas, each of
them once, with an access that would fail off the canvas and does not.  If the sides of the
canvas are signed numbers of 32 bits, the edges can be any such numbers, and to find the places
with them does not fail either.
-/
theorem painted_exactly (canvas : Canvas) (area : Area) (color : Color) :
    (∀ x y, (canvas.pixel? x y).isSome ↔ x < canvas.width ∧ y < canvas.height) ∧
    ((canvas.fill area color).width = canvas.width ∧
      (canvas.fill area color).height = canvas.height ∧
      ∀ x y, (canvas.fill area color).pixel? x y =
        (canvas.pixel? x y).map fun old => if area.Contains x y then color else old) ∧
    ((canvas.blend area color).width = canvas.width ∧
      (canvas.blend area color).height = canvas.height ∧
      ∀ x y, (canvas.blend area color).pixel? x y =
        (canvas.pixel? x y).map fun old =>
          if area.Contains x y then color.laidOver old else old) ∧
    (canvas.places area).Nodup ∧
    (∀ x y, (y, x) ∈ canvas.places area ↔
      (x < canvas.width ∧ y < canvas.height) ∧ area.Contains x y) ∧
    (canvas.places area).foldlM (touch? fun _ => color) canvas = some (canvas.fill area color) ∧
    (canvas.places area).foldlM (touch? color.laidOver) canvas =
      some (canvas.blend area color) ∧
    (canvas.width ≤ Int32.maxValue.toInt → canvas.height ≤ Int32.maxValue.toInt →
      ∀ left top right bottom : Int32, area = ⟨left.toInt, top.toInt, right.toInt, bottom.toInt⟩ →
        canvas.changeInWords? left top right bottom (fun _ => color) =
            some (canvas.fill area color) ∧
          canvas.changeInWords? left top right bottom color.laidOver =
            some (canvas.blend area color)) := by
  refine ⟨fun _ _ => isSome_pixel?_iff,
    ⟨rfl, rfl, canvas.pixel?_change area _⟩,
    ⟨rfl, rfl, canvas.pixel?_change area _⟩,
    canvas.nodup_places area,
    fun _ _ => mem_places_iff,
    foldlM_touch?_places _ canvas area,
    foldlM_touch?_places _ canvas area,
    fun wide high left top right bottom same => ?_⟩
  subst same
  exact ⟨changeInWords?_eq _ canvas wide high left top right bottom,
    changeInWords?_eq _ canvas wide high left top right bottom⟩

/-- An inverted area has no places, and one that sticks out on all sides has those of the canvas. -/
example :
    (blank 2 1 Color.white).places ⟨2, 1, 0, 0⟩ = [] ∧
      (blank 2 1 Color.white).places ⟨-2147483648, -1, 2147483647, 5⟩ = [(0, 0), (0, 1)] := by
  decide

end FrameChat.Canvas
