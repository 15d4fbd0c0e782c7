import FrameChat.Text.Extending
import FrameChat.Text.Hex
import FrameChat.Text.Unprintable

/-!
# Texts in quotes

A text that is reported to a person stands in double quotes.  Inside them a
quote or a backslash follows a backslash, line ends and tabs are named by a
letter, and a character that would leave no mark of its own is given by its
code point.
-/

namespace FrameChat.Text.Quoted

/-- Whether a character leaves a mark of its own. -/
def isMarked (char : Char) : Bool :=
  !(Unprintable.isUnprintable char || Extending.isExtending char)

/-- A character as it stands between quotes. -/
def escape (char : Char) : List Char :=
  match char with
  | '"' => ['\\', '"']
  | '\\' => ['\\', '\\']
  | '\n' => ['\\', 'n']
  | '\r' => ['\\', 'r']
  | '\t' => ['\\', 't']
  | '\x00' => ['\\', '0']
  | char =>
      if isMarked char then [char]
      else "\\u\x7b".toList ++ (Hex.ofNat char.toNat).toList ++ ['\x7d']

/-- A text between quotes. -/
def ofText (text : String) : String :=
  "\"" ++ String.ofList (text.toList.flatMap escape) ++ "\""

end FrameChat.Text.Quoted
