import FrameChat.Frame.Format
import FrameChat.Picture

/-!
# Frames

A frame is a picture in the form in which it is sent.  What the encoder makes
of a picture is left to the encoder; of its result only the number of bytes
plays a part here.
-/

namespace FrameChat

/-- Turns pictures into bytes. -/
structure Encoder where
  /-- bytes of an encoded picture; `none` if the encoder refuses it -/
  byteLength : FrameFormat → Picture → Option Nat

/-- An encoded picture. -/
structure Frame where
  format : FrameFormat
  picture : Picture
  byteLength : Nat

namespace Frame

/-- The media type of a frame. -/
def contentType (frame : Frame) : String :=
  frame.format.contentType

/-- A frame without bytes is not sent. -/
def isEmpty (frame : Frame) : Bool :=
  frame.byteLength = 0

/-- A notice without bytes. -/
def empty (viewport : Viewport) : Frame :=
  ⟨.jpeg FrameFormat.noticeQuality, ⟨viewport, Sheet.empty, []⟩, 0⟩

end Frame

/-- Encode a picture. -/
def Encoder.encode (encoder : Encoder) (format : FrameFormat) (picture : Picture) : Option Frame :=
  (encoder.byteLength format picture).map fun byteLength => ⟨format, picture, byteLength⟩

/-- Encode a notice; what the encoder refuses becomes a frame without bytes. -/
def Encoder.encodeNotice (encoder : Encoder) (picture : Picture) : Frame :=
  let format := FrameFormat.jpeg FrameFormat.noticeQuality
  (encoder.encode format picture).getD ⟨format, picture, 0⟩

end FrameChat
