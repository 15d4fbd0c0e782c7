import FrameChat.Service

/-!
# Drawing

Drawing takes a face from the pool, is an open place of its operation, and
returns the face whatever happens.  A frame that could not be drawn to its end
is none; a notice is sent with what was drawn of it.
-/

namespace FrameChat.Service

/-- Take a face from the pool. -/
def checkoutFace : Op Nat :=
  .act fun service =>
    let (face, faces) := service.faces.checkout
    (face, { service with faces })

/-- Return a face to the pool. -/
def giveBackFace (face : Nat) : Op Unit :=
  .modify fun service => { service with faces := service.faces.giveBack face }

/-- Draw a picture: what is to be seen of it, and whether it was drawn to its end. -/
def draw (picture : Picture) : Op (Picture × Bool) := do
  let face ← checkoutFace
  Operation.draw picture.sheet
  let inkFails ← Operation.ask Service.inkFails
  giveBackFace face
  if inkFails && !picture.sheet.glyphs.isEmpty then
    return ({ picture with sheet := Sheet.empty }, false)
  else
    return (picture, !picture.sheet.faulted)

/-- Draw and encode the picture of a scene. -/
def render (scene : Scene) (viewport : Viewport) : Op (Option Rendering) := do
  let studio ← Operation.ask Service.studio
  let picture := Picture.ofScene studio.face studio.table studio.atlas.isSome scene viewport
  let (picture, complete) ← draw picture
  if complete then
    return (studio.encoder.encode studio.format picture).map fun frame => ⟨frame, picture.links⟩
  else
    return none

/-- Draw and encode a notice. -/
def renderNotice (viewport : Viewport) (text : String) : Op Frame := do
  let studio ← Operation.ask Service.studio
  let (picture, _) ← draw (Picture.ofNotice studio.face text viewport)
  return studio.encoder.encodeNotice picture

end FrameChat.Service
