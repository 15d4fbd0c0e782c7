import FrameChat.Bytes

/-!
# Kinds of picture files

A picture file is told by the bytes that it begins with, whatever its name.
Files of some kinds can be read; of the others only the name of the kind is
known, so that a refusal can say it.
-/

namespace FrameChat.Startup

/-- A kind of picture files. -/
inductive PictureKind where
  | png
  | jpeg
  | gif
  | webp
  | tiff
  | dds
  | bmp
  | ico
  | hdr
  | pnm
  | farbfeld
  | avif
  | openExr
  | qoi
  deriving DecidableEq, Repr

namespace PictureKind

/-- The name of a kind. -/
def name : PictureKind → String
  | .png => "Png"
  | .jpeg => "Jpeg"
  | .gif => "Gif"
  | .webp => "WebP"
  | .tiff => "Tiff"
  | .dds => "Dds"
  | .bmp => "Bmp"
  | .ico => "Ico"
  | .hdr => "Hdr"
  | .pnm => "Pnm"
  | .farbfeld => "Farbfeld"
  | .avif => "Avif"
  | .openExr => "OpenExr"
  | .qoi => "Qoi"

/-- Whether files of a kind can be read. -/
def isRead (kind : PictureKind) : Bool :=
  kind = .png || kind = .jpeg || kind = .webp

/-- What a file begins with; `none` is a byte that does not matter. -/
abbrev Opening := List (Option UInt8)

/-- An opening of given bytes. -/
def given (bytes : Bytes) : Opening :=
  bytes.map some

/-- An opening that is text. -/
def text (text : String) : Opening :=
  given (Bytes.ofText text)

/-- An opening of bytes that do not matter. -/
def free (count : Nat) : Opening :=
  List.replicate count none

/-- The openings of all kinds; the first that fits decides. -/
def openings : List (PictureKind × Opening) :=
  [(.png, given [0x89, 0x50, 0x4E, 0x47, 0x0D, 0x0A, 0x1A, 0x0A]),
    (.jpeg, given [0xFF, 0xD8, 0xFF]),
    (.gif, text "GIF89a"),
    (.gif, text "GIF87a"),
    (.webp, text "RIFF" ++ free 4 ++ text "WEBP"),
    (.tiff, given [0x4D, 0x4D, 0x00, 0x2A]),
    (.tiff, given [0x49, 0x49, 0x2A, 0x00]),
    (.dds, text "DDS "),
    (.bmp, text "BM"),
    (.ico, given [0x00, 0x00, 0x01, 0x00]),
    (.hdr, text "#?RADIANCE")] ++
  ["P1", "P2", "P3", "P4", "P5", "P6", "P7"].map (fun letters => (.pnm, text letters)) ++
  [(.farbfeld, text "farbfeld"),
    (.avif, given [0x00, 0x00] ++ free 2 ++ text "ftypavif"),
    (.openExr, given [0x76, 0x2F, 0x31, 0x01]),
    (.qoi, text "qoif")]

/-- Whether a file begins with an opening. -/
def Opening.fits : Opening → Bytes → Bool
  | [], _ => true
  | _ :: _, [] => false
  | expected :: opening, byte :: content =>
      (expected.isNone || expected = some byte) && Opening.fits opening content

/-- The kind of a file. -/
def ofContent? (content : Bytes) : Option PictureKind :=
  (openings.find? fun entry => entry.2.fits content).map Prod.fst

/-- A file begins with the bytes of an opening exactly if they are a prefix of it. -/
theorem fits_given (bytes content : Bytes) :
    (given bytes).fits content = true ↔ bytes <+: content := by
  induction bytes generalizing content with
  | nil => simp [given, Opening.fits]
  | cons byte rest ih =>
      cases content with
      | nil => simp [given, Opening.fits]
      | cons first others =>
          have tail := ih others
          simp only [given] at tail
          simp [given, Opening.fits, tail, List.cons_prefix_cons]

end PictureKind

end FrameChat.Startup
