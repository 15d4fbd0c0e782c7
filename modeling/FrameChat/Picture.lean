import FrameChat.Picture.StatusBar

/-!
# Pictures

The picture of a scene is the stack of its messages with the status bar below;
a notice is a single line of text near the lower edge.  Both are described for
a face that can fail altogether: without any font there is no measure, so that
nothing of a picture is drawn.
-/

namespace FrameChat

/-- A described picture: its size, its marks and the links behind its badges. -/
structure Picture where
  viewport : Viewport
  sheet : Sheet
  links : List String

namespace Picture

/-- The picture of a scene. -/
def ofScene (face : Option Face) (table : Emoji.Table) (hasAtlas : Bool) (scene : Scene)
    (viewport : Viewport) : Picture :=
  match face with
  | none => ⟨viewport, Sheet.fault, []⟩
  | some face =>
      let blocks := Composition.blocks face table viewport scene
      { viewport
        sheet := Sheet.concat (blocks.map (Composition.Block.sheet face hasAtlas viewport)) ++
          StatusBar.sheet face viewport scene
        links := Composition.linksOf blocks }

/-- Baseline of the text of a notice. -/
def noticeBaseline : Int := (Viewport.height - 10 : Nat)

/-- The picture of a notice: its text, centred. -/
def ofNotice (face : Option Face) (text : String) (viewport : Viewport) : Picture :=
  match face with
  | none => ⟨viewport, Sheet.fault, []⟩
  | some face =>
      let pen := (Float32.ofNat viewport.width - face.measure text) / 2
      ⟨viewport, (Sheet.ofText face pen noticeBaseline text Color.black).1, []⟩

/-- Paint a picture. -/
def canvas (picture : Picture) (atlas : Option Canvas) : Canvas :=
  picture.sheet.paint atlas
    (Canvas.blank picture.viewport.width Viewport.height Color.white)

end Picture

end FrameChat
