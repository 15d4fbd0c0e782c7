import FrameChat.Text.Decimal

/-!
# Picture formats

Pictures are sent as JPEG of a given quality or as lossless WebP.  The name of
a format may be written in either case.
-/

namespace FrameChat

/-- How a picture is encoded. -/
inductive FrameFormat where
  | jpeg (quality : Nat)
  | webp
  deriving DecidableEq, Repr

namespace FrameFormat

/-- Quality of JPEG pictures unless stated otherwise. -/
def defaultQuality : Nat := 50

/-- Quality of notices. -/
def noticeQuality : Nat := 80

/-- The format unless stated otherwise. -/
def standard : FrameFormat := .jpeg defaultQuality

/-- The media type of a format. -/
def contentType : FrameFormat → String
  | .jpeg _ => "image/jpeg"
  | .webp => "image/webp"

/-- The quality of a lossy format. -/
def quality? : FrameFormat → Option Nat
  | .jpeg quality => some quality
  | .webp => none

/-- The quality that an encoder is given: at least one, at most a hundred. -/
def clampQuality (quality : Nat) : Nat :=
  max 1 (min quality 100)

/-- The longest edge that a picture can have in a format. -/
def edgeLimit : FrameFormat → Nat
  | .jpeg _ => 65535
  | .webp => 16384

/-- Whether pictures of a size can be encoded. -/
def takes (format : FrameFormat) (width height : Nat) : Bool :=
  0 < width && 0 < height && width ≤ format.edgeLimit && height ≤ format.edgeLimit

/-- Why a text names no format. -/
inductive Fault where
  | badQuality (text : String)
  | qualityOutOfRange (quality : Nat)
  | unknown (text : String)
  deriving DecidableEq, Repr

/-- How a fault is worded. -/
def Fault.message : Fault → String
  | .badQuality text => s!"bad jpeg quality: {text}"
  | .qualityOutOfRange quality => s!"jpeg quality out of range: {quality}"
  | .unknown text => s!"unknown frame format: {text}"

/-- Whether two texts agree up to the case of ASCII letters. -/
def sameName (left right : String) : Bool :=
  left.toList.map Char.toLower == right.toList.map Char.toLower

/-- Split at the first colon. -/
def splitColon (text : String) : String × Option String :=
  match text.splitOn ":" with
  | name :: rest@(_ :: _) => (name, some (":".intercalate rest))
  | _ => (text, none)

/-- Read a format: a name, and for JPEG perhaps a colon and a quality from 1 to 100. -/
def parse (text : String) : Except Fault FrameFormat :=
  match splitColon text with
  | (name, none) =>
      if sameName name "jpeg" then .ok standard
      else if sameName name "webp" then .ok .webp
      else .error (.unknown text)
  | (name, some quality) =>
      if sameName name "jpeg" then
        match Text.Decimal.readCount 10 256 quality with
        | .error _ => .error (.badQuality quality)
        | .ok value =>
            if 1 ≤ value ∧ value ≤ 100 then .ok (.jpeg value)
            else .error (.qualityOutOfRange value)
      else .error (.unknown text)

end FrameFormat

end FrameChat
