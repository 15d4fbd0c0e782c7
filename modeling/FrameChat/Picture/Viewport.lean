/-!
# Viewports

Pictures are drawn in two sizes.  A viewer states the width of its screen and
gets the wide picture only for exactly that width.
-/

namespace FrameChat

/-- The two sizes of a picture, narrowest first. -/
inductive Viewport where
  | narrow
  | wide
  deriving DecidableEq, Repr, Inhabited

namespace Viewport

/-- Width of a picture. -/
def width : Viewport → Nat
  | .narrow => 400
  | .wide => 800

/-- Height of a picture, the same for both sizes. -/
def height : Nat := 960

/-- The viewport for a stated screen width. -/
def ofScreen (screen : Nat) : Viewport :=
  if screen = 800 then .wide else .narrow

/-- Both viewports in order. -/
def all : List Viewport :=
  [.narrow, .wide]

/-- Position among all viewports. -/
def index : Viewport → Nat
  | .narrow => 0
  | .wide => 1

end Viewport

/-- One value for each viewport. -/
structure PerViewport (α : Type) where
  narrow : α
  wide : α
  deriving Repr, DecidableEq

namespace PerViewport

/-- The same value for both viewports. -/
def both {α : Type} (value : α) : PerViewport α :=
  ⟨value, value⟩

/-- The value for a viewport. -/
def get {α : Type} (values : PerViewport α) : Viewport → α
  | .narrow => values.narrow
  | .wide => values.wide

/-- Change the value for a viewport. -/
def set {α : Type} (values : PerViewport α) (viewport : Viewport) (value : α) : PerViewport α :=
  match viewport with
  | .narrow => { values with narrow := value }
  | .wide => { values with wide := value }

@[simp]
theorem get_both {α : Type} (value : α) (viewport : Viewport) :
    (both value).get viewport = value := by
  cases viewport <;> rfl

@[simp]
theorem get_set_same {α : Type} (values : PerViewport α) (viewport : Viewport) (value : α) :
    (values.set viewport value).get viewport = value := by
  cases viewport <;> rfl

theorem get_set_of_ne {α : Type} (values : PerViewport α) {viewport other : Viewport}
    (value : α) (differ : other ≠ viewport) :
    (values.set viewport value).get other = values.get other := by
  cases viewport <;> cases other <;> simp_all [set, get]

end PerViewport

end FrameChat
