import FrameChat.Picture.Composition

/-!
# The status bar

Along the lower edge stand the number of viewers on a gray badge, the time, and
the readout of traffic at the right.
-/

namespace FrameChat.StatusBar

/-- Edge of the icon of a viewer. -/
def iconEdge : Nat := 16

/-- Space between the parts of the bar. -/
def margin : Nat := Composition.margin * 3 / 2

/-- Left edge of the number of viewers. -/
def countLeft : Nat := margin + iconEdge + margin

/-- Upper edge of the bar. -/
def top : Nat := Viewport.height - Composition.barHeight

/-- Baseline of the texts in the bar. -/
def baseline : Nat := Viewport.height - (Composition.barHeight - iconEdge) / 2 - 3

/--
Whether a pixel of the icon is inked: a head above shoulders, both discs.
Everything is counted in half pixels from the centre of the pixel.
-/
def iconInk (dx dy : Nat) : Bool :=
  let square (offset : Int) := offset * offset
  let across : Int := 2 * dx + 1 - 16
  let down : Int := 2 * dy + 1
  let head := square across + square (down - 10) ≤ 49
  let shoulders := 20 ≤ down && square across + square (down - 32) ≤ 196
  head || shoulders

/-- The icon with its upper left pixel at a place. -/
def iconSheet (x y : Nat) : Sheet :=
  let marks := (List.range iconEdge).flatMap fun dy =>
    (List.range iconEdge).filterMap fun dx =>
      if iconInk dx dy then
        let left : Int := (x + dx : Nat)
        let top : Int := (y + dy : Nat)
        some (.blend ⟨left, top, left + 1, top + 1⟩ Color.grayText)
      else none
  ⟨marks, false⟩

/-- The sheet of the bar. -/
def sheet (face : Face) (viewport : Viewport) (scene : Scene) : Sheet :=
  let width : Int := viewport.width
  let height : Int := Viewport.height
  let count := toString scene.viewers
  let readout := scene.readout
  let readoutPen := Float32.ofNat viewport.width - Layout.contentLeft - face.measure readout
  Sheet.one (.fill ⟨0, top, width, height⟩ Color.wheat) ++ Sheet.ofFitting do
    let badgeRight ← fitting? (countLeft + nearest (face.measure count))
    let badgeRight ← fitting? (badgeRight + margin)
    let badge :=
      Sheet.one (.fill ⟨0, top, badgeRight, height⟩ Color.grayBar) ++
        iconSheet margin (top + (Composition.barHeight - iconEdge) / 2) ++
        (Sheet.ofText face (Float32.ofNat countLeft) baseline count Color.black).1
    let rest := Sheet.ofFitting do
      let clockLeft ← fitting? (badgeRight + (margin * 2 : Nat))
      let clock := scene.now.shown CalendarTime.hourMinute
      return (Sheet.ofText face (Float32.ofInt clockLeft) baseline clock Color.black).1 ++
        (Sheet.ofText face readoutPen baseline readout Color.black).1 ++
        Sheet.one (.fill ⟨0, height - 2, badgeRight, height⟩ Color.grayRule) ++
        Sheet.one (.fill ⟨badgeRight, height - 2, width, height⟩ Color.wheatRule)
    return badge ++ rest

end FrameChat.StatusBar
