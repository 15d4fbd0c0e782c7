import FrameChat.Message
import FrameChat.Text.Decimal

/-!
# Scenes

A scene is all that a picture shows of a channel: its messages, how many watch,
how much was sent, how long the last picture took, and the time.
-/

namespace FrameChat

/-- What a picture shows of a channel. -/
structure Scene where
  /-- the messages, oldest first -/
  messages : List Message
  viewers : Nat
  /-- bytes offered to viewers so far -/
  trafficBytes : Nat
  /-- size of the last picture of the same viewport -/
  lastFrameBytes : Nat
  /-- milliseconds that the last pictures took -/
  lastRenderMs : Nat
  now : Seconds
  deriving Repr

/--
The line at the lower right: pictures per second, kibibytes of the last picture,
and mebibytes sent.
-/
def Scene.readout (scene : Scene) : String :=
  let perSecond : Float := 1000 / Float.ofNat (max scene.lastRenderMs 1)
  let total : Float := Float.ofNat scene.trafficBytes / 1024 / 1024
  Text.Decimal.fixed 1 perSecond ++ "fps " ++ toString (scene.lastFrameBytes / 1024) ++ ":" ++
    Text.Decimal.fixed 2 total ++ "M"

end FrameChat
