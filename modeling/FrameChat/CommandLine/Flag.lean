/-!
# Flags

The flags of the command line: settings, which take one value each, and two
flags without a value that end the program by themselves.
-/

namespace FrameChat.CommandLine

/-- The flags that take a value. -/
inductive Setting where
  | bind
  | archive
  | font
  | fontFamily
  | emojiTable
  | emojiAtlas
  | format
  | quality
  | requireToken
  | logLevel
  deriving DecidableEq, Repr

/-- A flag. -/
inductive Flag where
  | setting (setting : Setting)
  | help
  | version
  deriving DecidableEq, Repr

namespace Setting

/-- All settings, in the order in which help lists them. -/
def all : List Setting :=
  [.bind, .archive, .font, .fontFamily, .emojiTable, .emojiAtlas, .format, .quality,
    .requireToken, .logLevel]

theorem mem_all (setting : Setting) : setting ∈ all := by
  cases setting <;> decide

/-- The name of a setting. -/
def name : Setting → String
  | .bind => "bind"
  | .archive => "db"
  | .font => "font"
  | .fontFamily => "font-family"
  | .emojiTable => "emoji-table"
  | .emojiAtlas => "emoji-atlas"
  | .format => "format"
  | .quality => "quality"
  | .requireToken => "require-token"
  | .logLevel => "log-level"

/-- Settings are told apart by their names. -/
theorem name_injective {setting other : Setting} (same : setting.name = other.name) :
    setting = other := by
  cases setting <;> cases other <;> simp_all [name]

/-- What stands for the value in messages. -/
def placeholder (setting : Setting) : String :=
  "<" ++ setting.name.map (fun char => if char = '-' then '_' else char.toUpper) ++ ">"

/-- What a setting is for. -/
def purpose : Setting → String
  | .bind => "Address to bind to"
  | .archive => "Path of the message store"
  | .font => "Font file for message text"
  | .fontFamily => "Font family to select"
  | .emojiTable => "Binary emoji cluster table"
  | .emojiAtlas => "PNG emoji sprite atlas"
  | .format => "Frame codec (jpeg, jpeg:<quality>, webp)"
  | .quality => "JPEG quality, overrides the one in --format"
  | .requireToken => "Require a submission token on every message"
  | .logLevel => "Log level (trace, debug, info, warn, error)"

/-- The value of a setting that is not given. -/
def default? : Setting → Option String
  | .bind => some "0.0.0.0:8080"
  | .archive => some "pixelchat.redb"
  | .format => some "jpeg"
  | .requireToken => some "true"
  | .logLevel => some "info"
  | _ => none

/-- The values that a setting can have, if they can be listed. -/
def choices : Setting → List String
  | .requireToken => ["true", "false"]
  | _ => []

end Setting

namespace Flag

/-- All flags, in the order in which help lists them. -/
def all : List Flag :=
  Setting.all.map .setting ++ [.help, .version]

theorem mem_all (flag : Flag) : flag ∈ all := by
  cases flag with
  | setting chosen => simp [all, Setting.mem_all]
  | help => simp [all]
  | version => simp [all]

/-- The name that follows two hyphens. -/
def name : Flag → String
  | .setting chosen => chosen.name
  | .help => "help"
  | .version => "version"

/-- The letter that follows one hyphen, if a flag has one. -/
def letter? : Flag → Option Char
  | .setting .bind => some 'b'
  | .help => some 'h'
  | .version => some 'V'
  | .setting _ => none

/-- The flag with a name. -/
def ofName? (name : String) : Option Flag :=
  all.find? fun flag => flag.name = name

/-- The flag with a letter. -/
def ofLetter? (letter : Char) : Option Flag :=
  all.find? fun flag => flag.letter? = some letter

/-- A flag as messages show it. -/
def shown : Flag → String
  | .setting chosen => "--" ++ chosen.name ++ " " ++ chosen.placeholder
  | flag => "--" ++ flag.name

/-- What a flag is for. -/
def purpose : Flag → String
  | .setting chosen => chosen.purpose
  | .help => "Print help"
  | .version => "Print version"

/-- The left column of help. -/
def synopsis (flag : Flag) : String :=
  match flag.letter? with
  | some letter => "  -" ++ String.singleton letter ++ ", " ++ flag.shown
  | none => "      " ++ flag.shown

/-- The right column of help. -/
def description (flag : Flag) : String :=
  match flag with
  | .setting chosen =>
      let default := (chosen.default?.map fun text => " [default: " ++ text ++ "]").getD ""
      chosen.purpose ++ default ++
        (if chosen.choices.isEmpty then ""
          else " [possible values: " ++ ", ".intercalate chosen.choices ++ "]")
  | flag => flag.purpose

end Flag

/-- The name of the program. -/
def program : String := "pixelchat-server"

/-- The line that tells the version of the program. -/
def versionText : String := program ++ " 0.1.0\n"

/-- The words that follow the program's name when its call is shown: flags that matter, or any. -/
def usageOf (flags : List Flag) : List String :=
  if flags.isEmpty then ["[OPTIONS]"] else flags.map Flag.shown

/-- All settings as alternatives, as the program's call shows them. -/
def Setting.alternatives : String :=
  "<" ++ "|".intercalate (Setting.all.map fun setting => (Flag.setting setting).shown) ++ ">"

/-- The help text: both columns, the right one two places from the longest synopsis. -/
def helpText : String :=
  let widest := (Flag.all.map fun flag => flag.synopsis.length).foldl max 0
  let line (flag : Flag) : String :=
    flag.synopsis ++ String.ofList (List.replicate (widest + 2 - flag.synopsis.length) ' ') ++
      flag.description ++ "\n"
  "Chat rooms streamed as rendered image frames\n\nUsage: " ++
    " ".intercalate (program :: usageOf []) ++ "\n\nOptions:\n" ++
    String.join (Flag.all.map line)

end FrameChat.CommandLine
