import FrameChat.CommandLine.Fault
import FrameChat.Startup

/-!
# The command line

Arguments are read one after the other.  A value that stands apart from its
flag is examined only when the next known flag comes or the arguments end, so
that an argument without meaning is reported first.  After two hyphens alone
nothing is a flag any more.
-/

namespace FrameChat.CommandLine

/-- What the settings say. -/
structure Arguments where
  bind : String
  archive : String
  font : Option String
  fontFamily : Option String
  emojiTable : Option String
  emojiAtlas : Option String
  format : FrameFormat
  quality : Option Nat
  requireToken : Bool
  logLevel : String
  deriving DecidableEq, Repr

/-- What holds when no setting is given. -/
def Arguments.standard : Arguments :=
  { bind := Startup.Config.standard.bind
    archive := Startup.Config.standard.archive
    font := none
    fontFamily := none
    emojiTable := none
    emojiAtlas := none
    format := FrameFormat.standard
    quality := none
    requireToken := true
    logLevel := "info" }

/-- A path cannot be empty. -/
def readPath (setting : Setting) (text : String) : Except Fault String :=
  if text.isEmpty then .error (.missingValue setting) else .ok text

/-- Read a picture quality. -/
def readQuality (text : String) : Except Fault Nat :=
  match Text.Decimal.readInteger (UInt64.size / 2) text with
  | .error refusal => .error (.unreadable .quality text refusal.message)
  | .ok value =>
      if 0 ≤ value ∧ value ≤ 255 then .ok value.toNat
      else .error (.unreadable .quality text (toString value ++ " is not in 0..=255"))

/-- Read a decision. -/
def readDecision (setting : Setting) (text : String) : Except Fault Bool :=
  match text with
  | "true" => .ok true
  | "false" => .ok false
  | "" => .error (.missingValue setting)
  | text => .error (.noChoice setting text)

/-- Read the value of a setting. -/
def Arguments.set (arguments : Arguments) (setting : Setting) (text : String) :
    Except Fault Arguments :=
  match setting with
  | .bind => .ok { arguments with bind := text }
  | .archive => (readPath setting text).map fun archive => { arguments with archive }
  | .font => (readPath setting text).map fun path => { arguments with font := some path }
  | .fontFamily => .ok { arguments with fontFamily := some text }
  | .emojiTable => (readPath setting text).map fun path => { arguments with emojiTable := some path }
  | .emojiAtlas => (readPath setting text).map fun path => { arguments with emojiAtlas := some path }
  | .format =>
      match FrameFormat.parse text with
      | .ok format => .ok { arguments with format }
      | .error fault => .error (.unreadable setting text fault.message)
  | .quality => (readQuality text).map fun quality => { arguments with quality := some quality }
  | .requireToken =>
      (readDecision setting text).map fun requireToken => { arguments with requireToken }
  | .logLevel => .ok { arguments with logLevel := text }

/-- Why reading stopped before a service could be started. -/
inductive Stop where
  | help
  | version
  | fault (fault : Fault)
  deriving DecidableEq, Repr

/-- A setting whose value is not examined yet, and may not have come yet. -/
structure Pending where
  setting : Setting
  value : Option String
  deriving DecidableEq, Repr

/-- How far arguments are read. -/
structure Progress where
  arguments : Arguments
  /-- settings already examined, in order -/
  used : List Setting
  pending : Option Pending
  deriving DecidableEq, Repr

namespace Progress

/-- Nothing is read. -/
def start : Progress :=
  ⟨Arguments.standard, [], none⟩

/-- Examine a setting and its value. -/
def examine (progress : Progress) (pending : Pending) : Except Fault Progress :=
  match pending.value with
  | none => .error (.missingValue pending.setting)
  | some value =>
      if progress.used.contains pending.setting then .error (.repeated pending.setting)
      else
        (progress.arguments.set pending.setting value).map fun arguments =>
          ⟨arguments, progress.used ++ [pending.setting], none⟩

/-- Examine what is pending. -/
def settle (progress : Progress) : Except Fault Progress :=
  match progress.pending with
  | none => .ok progress
  | some pending => progress.examine pending

/-- The flags in use when an argument is refused: what is pending counts if its value has come. -/
def inUse (progress : Progress) : List Flag :=
  let used :=
    match progress.pending with
    | some ⟨setting, some _⟩ =>
        if progress.used.contains setting then progress.used.erase setting
        else progress.used ++ [setting]
    | _ => progress.used
  used.map .setting

/-- Refuse an argument that looks like a flag with a name. -/
def refuseName (progress : Progress) (name : String) : Fault :=
  let similar := (Text.Similarity.nearest? name (Flag.all.map Flag.name)).bind Flag.ofName?
  let used := progress.inUse
  let used :=
    match similar with
    | some flag => if used.contains flag then used else used ++ [flag]
    | none => used
  .unexpected ("--" ++ name) similar used

/-- Meet a setting, perhaps with its value attached. -/
def meet (progress : Progress) (setting : Setting) (value : Option String) :
    Except Stop Progress := do
  let progress ← progress.settle.mapError .fault
  match value with
  | none => return { progress with pending := some ⟨setting, none⟩ }
  | some value => (progress.examine ⟨setting, some value⟩).mapError .fault

/-- Meet a flag that ends the program, once what is pending was examined. -/
def finish (progress : Progress) (stop : Stop) : Except Stop Progress :=
  match progress.settle with
  | .ok _ => .error stop
  | .error fault => .error (.fault fault)

/-- Read an argument that begins with two hyphens, which are left out here. -/
def readName (progress : Progress) (text : String) : Except Stop Progress :=
  let name := String.ofList (text.toList.takeWhile (· ≠ '='))
  let value :=
    if text.toList.contains '=' then
      some (String.ofList ((text.toList.dropWhile (· ≠ '=')).drop 1))
    else none
  match Flag.ofName? name, value with
  | none, _ => .error (.fault (progress.refuseName name))
  | some (.setting setting), value => progress.meet setting value
  | some flag, some value =>
      .error (.fault (.needlessValue flag value !progress.used.isEmpty))
  | some .help, none => progress.finish .help
  | some .version, none => progress.finish .version

/-- Read the letter after a hyphen, and what stands behind it. -/
def readLetter (progress : Progress) (letter : Char) (rest : List Char) : Except Stop Progress :=
  match Flag.ofLetter? letter with
  | none => .error (.fault (.unexpected ("-" ++ String.singleton letter) none []))
  | some .help => progress.finish .help
  | some .version => progress.finish .version
  | some (.setting setting) =>
      match rest with
      | [] => progress.meet setting none
      | '=' :: value => progress.meet setting (some (String.ofList value))
      | value => progress.meet setting (some (String.ofList value))

/-- Read an argument that is no flag: the value of what is pending, or nothing. -/
def readValue (progress : Progress) (text : String) : Except Stop Progress :=
  match progress.pending with
  | some ⟨setting, none⟩ => .ok { progress with pending := some ⟨setting, some text⟩ }
  | _ => .error (.fault (.unexpected text none []))

/-- Read arguments in order. -/
def read (progress : Progress) : List String → Except Stop Arguments
  | [] =>
      match progress.settle with
      | .ok progress => .ok progress.arguments
      | .error fault => .error (.fault fault)
  | "--" :: [] => progress.read []
  | "--" :: argument :: _ => .error (.fault (.unexpected argument none []))
  | argument :: rest =>
      let next :=
        match argument.toList with
        | '-' :: '-' :: text => progress.readName (String.ofList text)
        | '-' :: letter :: text => progress.readLetter letter text
        | _ => progress.readValue argument
      match next with
      | .ok progress => progress.read rest
      | .error stop => .error stop

end Progress

/-- Read a command line. -/
def read (arguments : List String) : Except Stop Arguments :=
  Progress.start.read arguments

/-- The configuration that a command line asks for. -/
def Arguments.config (arguments : Arguments) : Startup.Config :=
  let format :=
    match arguments.format, arguments.quality with
    | .jpeg _, some quality => .jpeg (FrameFormat.clampQuality quality)
    | format, _ => format
  { Startup.Config.standard with
    bind := arguments.bind
    archive := arguments.archive
    assets := ⟨arguments.font, arguments.fontFamily, arguments.emojiTable, arguments.emojiAtlas⟩
    format
    limits := { Intake.Limits.standard with requireToken := arguments.requireToken } }

/-- What a program leaves behind when it ends. -/
structure Ending where
  status : Nat
  output : String
  errors : String
  deriving DecidableEq, Repr

/-- How a program ends that does not come to starting a service. -/
def Stop.ending : Stop → Ending
  | .help => ⟨0, helpText, ""⟩
  | .version => ⟨0, versionText, ""⟩
  | .fault found => ⟨2, "", found.message⟩

/-- Do what a command line asks for, up to the point where the service listens. -/
def run (machine : Startup.Machine) (arguments : List String) :
    Except Ending Startup.Prepared :=
  match read arguments with
  | .error stop => .error stop.ending
  | .ok arguments =>
      match Startup.prepare machine arguments.config with
      | .ok prepared => .ok prepared
      | .error fault => .error ⟨1, "", "Error: " ++ fault.report ++ "\n"⟩

end FrameChat.CommandLine
