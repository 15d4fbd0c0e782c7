import FrameChat.Emoji.File
import FrameChat.Intake
import FrameChat.Net.Endpoint
import FrameChat.Service
import FrameChat.Startup.Files
import FrameChat.Startup.PictureKind
import FrameChat.Text.Quoted

/-!
# Starting a service

A service opens its archive, reads its assets, and then binds its address; the
first thing that fails ends the start.  What the start finds on the machine it
runs on, and the work of its font and picture decoders, is handed over.
-/

namespace FrameChat

/-- What is wrong with what pictures are drawn with. -/
inductive Studio.Fault where
  | table (fault : Emoji.File.Fault)
  | asset (reason : String)
  | encoding (reason : String)
  deriving DecidableEq, Repr

/-- How the fault is worded. -/
def Studio.Fault.message : Studio.Fault → String
  | .table fault => fault.message
  | .asset reason => "asset error: " ++ reason
  | .encoding reason => "encode error: " ++ reason

/-- The fault with its name, for a report. -/
def Studio.Fault.report : Studio.Fault → String
  | .table fault =>
      "GraphemeTable \x7b offset: " ++ toString fault.offset ++ ", reason: " ++
        Text.Quoted.ofText fault.reason.message ++ " \x7d"
  | .asset reason => "Asset(" ++ Text.Quoted.ofText reason ++ ")"
  | .encoding reason => "Encode(" ++ Text.Quoted.ofText reason ++ ")"

/-- The name of a kind of fault, for a report. -/
def Archive.FaultKind.name : Archive.FaultKind → String
  | .serialization => "Serialization"
  | .io => "Io"

/-- The fault with the name of its kind, for a report. -/
def Archive.Fault.report (fault : Archive.Fault) : String :=
  fault.kind.name ++ "(" ++ Text.Quoted.ofText fault.reason ++ ")"

namespace Startup

/-- Why a service does not start, or stops. -/
inductive Fault where
  | config (reason : String)
  | transport (reason : String)
  | archive (fault : Archive.Fault)
  | studio (fault : Studio.Fault)
  | internal (reason : String)
  deriving DecidableEq, Repr

namespace Fault

/-- How a fault is worded. -/
def message : Fault → String
  | .config reason => "configuration error: " ++ reason
  | .transport reason => "transport error: " ++ reason
  | .archive fault => "storage error: " ++ fault.message
  | .studio fault => "render error: " ++ fault.message
  | .internal reason => "internal error: " ++ reason

/-- How the fault behind a fault is worded, if there is one. -/
def cause? : Fault → Option String
  | .archive fault => some fault.message
  | .studio fault => some fault.message
  | .config _ | .transport _ | .internal _ => none

/-- The name of the kind of a fault, for a report. -/
def name : Fault → String
  | .config _ => "Config"
  | .transport _ => "Transport"
  | .archive _ => "Storage"
  | .studio _ => "Render"
  | .internal _ => "Internal"

/-- The fault with the name of its kind, for a report. -/
def report (fault : Fault) : String :=
  let detail := match fault with
    | .config reason | .transport reason | .internal reason => Text.Quoted.ofText reason
    | .archive fault => fault.report
    | .studio fault => fault.report
  fault.name ++ "(" ++ detail ++ ")"

end Fault

/-- What a machine offers to a service that starts on it. -/
structure Machine where
  files : FileTree
  /-- the face for the content of a font file and a family; `none` if there is no font -/
  face : Option Bytes → Option String → Option Face
  /-- the picture in a file of a kind that can be read, or why there is none -/
  picture : Bytes → Except String Canvas
  encoder : Encoder
  /-- whether a service can listen at a place -/
  listen : Net.Endpoint → Except Net.EndpointFault Unit

namespace Machine

/-- What is said of a picture file of no known kind. -/
def unknownPicture : String := "The image format could not be determined"

/-- What is said of a picture file of a kind that cannot be read. -/
def unreadPicture (kind : PictureKind) : String :=
  "The image format " ++ kind.name ++ " is not supported"

/-- What is said of a picture file that ends before its picture does. -/
def cutPicture : String := "unexpected end of file"

/--
A machine with given files that decodes no font and no picture, encodes none,
and knows no machine but itself.
-/
def bare (files : FileTree) : Machine :=
  { files
    face := fun _ _ => none
    picture := fun _ => .error cutPicture
    encoder := ⟨fun _ _ => none⟩
    listen := Net.Endpoint.listenAlone }

/-- The picture in a file, which has to be of a kind that can be read. -/
def decode (machine : Machine) (content : Bytes) : Except String Canvas :=
  match PictureKind.ofContent? content with
  | none => .error unknownPicture
  | some kind =>
      if kind.isRead then machine.picture content else .error (unreadPicture kind)

/-- The content of a file. -/
def read (machine : Machine) (path : String) : Except Fault Bytes :=
  (machine.files.read path).mapError fun fault =>
    .config ("reading " ++ path ++ ": " ++ fault.message)

/-- Open the archive at a path, which is made if there is none. -/
def openArchive (machine : Machine) (path : String) : Except Fault (Archive × Machine) :=
  match machine.files.openFile path Archive.blankFile with
  | .ok files => .ok (Archive.inTables, { machine with files })
  | .error fault => .error (.archive (.medium ("I/O error: " ++ fault.message)))

/-- Listen at a place that is given as text. -/
def listenAt (machine : Machine) (text : String) : Except Fault Net.Endpoint :=
  let listening : Except Net.EndpointFault Net.Endpoint := do
    let endpoint ← Net.Endpoint.parse text
    machine.listen endpoint
    return endpoint
  listening.mapError fun fault => .transport ("binding " ++ text ++ ": " ++ fault.message)

end Machine

/-- Paths of what pictures are drawn with; what is not given is done without. -/
structure Assets where
  font : Option String
  family : Option String
  table : Option String
  atlas : Option String
  deriving DecidableEq, Repr

/-- No assets. -/
def Assets.none : Assets :=
  ⟨.none, .none, .none, .none⟩

/-- Read assets: the font, then the table, then the atlas. -/
def Assets.studio (machine : Machine) (assets : Assets) (format : FrameFormat) :
    Except Fault Studio := do
  let font ← assets.font.mapM machine.read
  let table ← match assets.table with
    | .none => pure (Emoji.Table.ofSequences [])
    | some path =>
        match Emoji.File.table (← machine.read path) with
        | .ok table => pure table
        | .error fault => throw (.studio (.table fault))
  let atlas ← assets.atlas.mapM fun path => do
    match machine.decode (← machine.read path) with
    | .ok picture => pure picture
    | .error reason => throw (.studio (.asset reason))
  return { face := machine.face font assets.family, table, atlas, format
           encoder := machine.encoder }

/-- How a service is configured. -/
structure Config where
  /-- address to listen at -/
  bind : String
  /-- path of the archive -/
  archive : String
  assets : Assets
  format : FrameFormat
  channels : Channel.Settings
  /-- milliseconds between two sweeps of idle channels -/
  sweepPeriod : Nat
  limits : Intake.Limits
  deriving DecidableEq, Repr

/-- The usual configuration. -/
def Config.standard : Config :=
  { bind := "0.0.0.0:8080"
    archive := "pixelchat.redb"
    assets := Assets.none
    format := FrameFormat.standard
    channels := Channel.Settings.standard
    sweepPeriod := Directory.sweepPeriod
    limits := Intake.Limits.standard }

/-- What a service has when its start went well. -/
structure Prepared where
  archive : Archive
  studio : Studio
  endpoint : Net.Endpoint

/-- Start a service up to the point where it listens. -/
def prepare (machine : Machine) (config : Config) : Except Fault Prepared := do
  let (archive, machine) ← machine.openArchive config.archive
  let studio ← config.assets.studio machine config.format
  return ⟨archive, studio, ← machine.listenAt config.bind⟩

end Startup

end FrameChat
