import FrameChat.Cipher.Sha256
import FrameChat.Entropy
import FrameChat.Calendar
import FrameChat.Net.Address
import FrameChat.Text.Base64
import FrameChat.Text.Blank

/-!
# Cleaning what comes in

Names of channels and members keep a small set of characters and are cut to a
length; the text of a message loses its carriage returns and is cut before it
has too many bytes or lines.  Who states no name is called after the address.
-/

namespace FrameChat.Intake

/-- Characters that a name may have. -/
def isNameChar (char : Char) : Bool :=
  char.isAlphanum || char = '.' || char = '_' || char = '-' ||
    (0xFF < char.toNat && !Text.isBlank char)

/-- The first `maxChars` characters of a text that a name may have. -/
def cleanName (raw : String) (maxChars : Nat) : String :=
  String.ofList ((raw.toList.filter isNameChar).take maxChars)

/--
Keep characters after `bytes` bytes and `lineFeeds` line feeds: stop before the
line feed that would begin a line too many, and before a character that would
not fit.
-/
def keepFitting (maxBytes maxLines : Nat) (bytes lineFeeds : Nat) : List Char → List Char
  | [] => []
  | char :: rest =>
      let lineFeeds := if char = '\n' then lineFeeds + 1 else lineFeeds
      if char = '\n' ∧ maxLines ≤ lineFeeds then []
      else if maxBytes < bytes + char.utf8Size then []
      else char :: keepFitting maxBytes maxLines (bytes + char.utf8Size) lineFeeds rest

/-- A message text without carriage returns, within its limits. -/
def cleanMessage (raw : String) (maxBytes maxLines : Nat) : String :=
  String.ofList (keepFitting maxBytes maxLines 0 0 (raw.toList.filter (· ≠ '\r')))

/-- The name of a member that states none. -/
def addressIdentity (address : Net.Address) : String :=
  "anon-" ++ Text.Base64.encode ((Cipher.Sha256.digest (Bytes.ofText address.text)).take 6)

/-- Random bytes in the name of a fresh room. -/
def roomSuffixLength : Nat := 3

/-- The name of a fresh room: a base, the day, and random characters. -/
def roomName (base : String) (now : Seconds) (random : Bytes) : String :=
  base ++ "--" ++ now.shown CalendarTime.monthDay ++ Text.Base64.encode random

end FrameChat.Intake
