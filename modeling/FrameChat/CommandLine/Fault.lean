import FrameChat.CommandLine.Flag
import FrameChat.Text.Similarity
import FrameChat.Text.Styled

/-!
# Faults of a command line

What is wrong with a command line, and how it is reported: what happened,
perhaps a tip, perhaps how the program is called, and where to find more.
-/

namespace FrameChat.CommandLine

open Text.Styled (Piece plain quoted)

/-- What is wrong with a command line. -/
inductive Fault where
  /-- an argument that is no flag and no value; beside it, a similar flag and the flags in use -/
  | unexpected (argument : String) (similar : Option Flag) (used : List Flag)
  /-- a value for a flag that takes none, and whether settings were examined before -/
  | needlessValue (flag : Flag) (value : String) (anyUsed : Bool)
  /-- a setting that is given twice -/
  | repeated (setting : Setting)
  /-- a setting without a value -/
  | missingValue (setting : Setting)
  /-- a value that cannot be read -/
  | unreadable (setting : Setting) (value reason : String)
  /-- a value that is not among the choices -/
  | noChoice (setting : Setting) (value : String)
  deriving DecidableEq, Repr

namespace Fault

/-- The values that a setting can have, on a line of their own. -/
def choicesLine (setting : Setting) : List Piece :=
  if setting.choices.isEmpty then []
  else
    plain "\n  [possible values: " ++
      (plain ", ").intercalate (setting.choices.map fun choice => [⟨.right, choice⟩]) ++ plain "]"

/-- A setting whose value is refused, and the value. -/
def refusal (setting : Setting) (value : String) : List Piece :=
  plain "invalid value " ++ quoted .wrong value ++ plain " for " ++
    quoted .literal (Flag.setting setting).shown

/-- What happened. -/
def summary : Fault → List Piece
  | .unexpected argument _ _ =>
      plain "unexpected argument " ++ quoted .wrong argument ++ plain " found"
  | .needlessValue flag value _ =>
      plain "unexpected value " ++ quoted .wrong value ++ plain " for " ++
        quoted .literal flag.shown ++ plain " found; no more were expected"
  | .repeated setting =>
      plain "the argument " ++ quoted .wrong (Flag.setting setting).shown ++
        plain " cannot be used multiple times"
  | .missingValue setting =>
      plain "a value is required for " ++ quoted .literal (Flag.setting setting).shown ++
        plain " but none was supplied" ++ choicesLine setting
  | .unreadable setting value reason => refusal setting value ++ plain (": " ++ reason)
  | .noChoice setting value => refusal setting value ++ choicesLine setting

/-- What may have been meant. -/
def tip? : Fault → Option (List Piece)
  | .unexpected _ (some flag) _ =>
      some (plain "a similar argument exists: " ++ quoted .right ("--" ++ flag.name))
  | .noChoice setting value =>
      (Text.Similarity.nearest? value setting.choices).map fun choice =>
        plain "a similar value exists: " ++ quoted .right choice
  | _ => none

/-- How the program's call is shown, if it is shown. -/
def usage? : Fault → Option (List String)
  | .unexpected _ _ used => some (usageOf used)
  | .needlessValue flag _ anyUsed =>
      some (flag.shown :: if anyUsed then [Setting.alternatives] else [])
  | .repeated _ => some (usageOf [])
  | _ => none

/-- The whole report. -/
def report (fault : Fault) : List Piece :=
  [⟨.alarm, "error:"⟩] ++ plain " " ++ fault.summary ++
    ((fault.tip?.map fun tip => plain "\n\n  " ++ [⟨.right, "tip:"⟩] ++ plain " " ++ tip).getD []) ++
    ((fault.usage?.map fun words =>
      plain "\n\n" ++ [⟨.title, "Usage:"⟩, ⟨.plain, " "⟩, ⟨.literal, program⟩] ++
        words.flatMap fun word => [⟨.plain, " "⟩, ⟨.literal, word⟩]).getD []) ++
    plain "\n\nFor more information, try " ++ quoted .literal "--help" ++ plain ".\n"

/-- The report for a reader without a terminal. -/
def message (fault : Fault) : String :=
  Text.Styled.unstyled fault.report

end Fault

end FrameChat.CommandLine
