import FrameChat.Face
import FrameChat.Text.Blank

/-!
# A face of blocks

Every visible character is a solid block, eleven pixels high and one pixel
narrower than its advance.  That is enough to tell text from background.
-/

namespace FrameChat.Face

/-- Height of a block above the baseline. -/
def blockHeight : Int := 11

/-- The strokes of a block: none for white space. -/
def blockInk (advance : Char → Float32) (char : Char) (pen : Float32) (baseline : Int)
    (color : Color) : Except Overflow (List Stroke) :=
  if Text.isBlank char then .ok []
  else do
    let left := nearest pen
    let narrowed ← fittingBy .subtracting ((advance char).toInt32.toInt - 1)
    let right ← fittingBy .adding (left + max narrowed 1)
    let top ← fittingBy .subtracting (baseline - blockHeight)
    return [⟨⟨left, top, right, baseline⟩, color, true⟩]

/-- The face of blocks with given metrics. -/
def block (advance : Char → Float32) (kern : Char → Char → Float32) : Face where
  advance := advance
  kern := kern
  measure text := runWidth advance kern 0 none (visible text)
  ink := blockInk advance

end FrameChat.Face
