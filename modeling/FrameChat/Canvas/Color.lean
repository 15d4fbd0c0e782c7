/-!
# Colours

A colour has three channels and an opacity, one byte each.  Laying a colour
over another follows the usual "over" rule on fractions of 255, computed in
single precision, and the result is cut to whole steps.
-/

namespace FrameChat

/-- Red, green, blue and opacity. -/
structure Color where
  (r g b a : UInt8)
  deriving DecidableEq, Repr, Inhabited

namespace Color

/-- One channel as a fraction of its maximum. -/
def fraction (channel : UInt8) : Float32 :=
  Float32.ofNat channel.toNat / 255

/-- A fraction as a channel, cut to whole steps. -/
def channel (fraction : Float32) : UInt8 :=
  (255 * fraction).toUInt8

/-- Lay `top` over `under`. -/
def laidOver (top under : Color) : Color :=
  if top.a = 0 then under
  else if top.a = 255 then top
  else
    let underAlpha := fraction under.a
    let topAlpha := fraction top.a
    let alpha := underAlpha + topAlpha - underAlpha * topAlpha
    if alpha == 0 then under
    else
      let mix (topChannel underChannel : UInt8) : UInt8 :=
        channel ((fraction topChannel * topAlpha +
          fraction underChannel * underAlpha * (1 - topAlpha)) / alpha)
      ⟨mix top.r under.r, mix top.g under.g, mix top.b under.b, channel alpha⟩

/-- A colour without opacity changes nothing. -/
theorem laidOver_of_transparent {top : Color} (clear : top.a = 0) (under : Color) :
    top.laidOver under = under := by
  simp [laidOver, clear]

/-- An opaque colour covers. -/
theorem laidOver_of_opaque {top : Color} (full : top.a = 255) (under : Color) :
    top.laidOver under = top := by
  simp [laidOver, full]

/-- White. -/
def white : Color := ⟨255, 255, 255, 255⟩
/-- Black, for message text. -/
def black : Color := ⟨0, 0, 0, 255⟩
/-- Blue, for authors. -/
def blue : Color := ⟨0, 0, 255, 255⟩
/-- Translucent blue, for link badges. -/
def badge : Color := ⟨0, 0, 255, 120⟩
/-- Gray behind the viewer count. -/
def grayBar : Color := ⟨200, 200, 200, 255⟩
/-- Gray behind every other message. -/
def grayBand : Color := ⟨245, 245, 245, 255⟩
/-- Gray rule under the viewer count. -/
def grayRule : Color := ⟨180, 180, 180, 255⟩
/-- Gray text and icons. -/
def grayText : Color := ⟨120, 120, 120, 255⟩
/-- Wheat, for the status bar. -/
def wheat : Color := ⟨0xFF, 0xEC, 0xB3, 255⟩
/-- Wheat rule under the status bar. -/
def wheatRule : Color := ⟨0xEE, 0xDB, 0xA2, 255⟩

end Color

end FrameChat
