import FrameChat.Message.Record
import FrameChat.Text.Utf8

/-!
# Why an archive fails

Either what it holds cannot be read, or the medium refuses.
-/

namespace FrameChat.Archive

/-- Why an operation of an archive failed. -/
inductive Fault where
  /-- a stored record is none -/
  | record (fault : Message.Record.Fault)
  /-- a stored time does not have eight bytes -/
  | activityWidth (width : Nat)
  /-- an entry of the index by time is too short -/
  | shortRecencyKey
  /-- a name in the index by time is not UTF-8 -/
  | nameText (broken : Text.Utf8.Break)
  /-- something else that is stored cannot be read -/
  | damaged (reason : String)
  /-- the fault was asked for -/
  | injected
  /-- the medium refuses -/
  | medium (reason : String)
  deriving DecidableEq, Repr

/-- The two kinds of fault. -/
inductive FaultKind where
  | serialization
  | io
  deriving DecidableEq, Repr

namespace Fault

/-- The kind of a fault. -/
def kind : Fault → FaultKind
  | .injected | .medium _ => .io
  | _ => .serialization

/-- The cause of a fault without its kind. -/
def reason : Fault → String
  | .record fault => fault.message
  | .activityWidth width => s!"activity value is {width} bytes"
  | .shortRecencyKey => "short recency key"
  | .nameText broken => broken.message
  | .damaged reason => reason
  | .injected => "chaos: injected failure"
  | .medium reason => reason

/-- How a fault is worded. -/
def message (fault : Fault) : String :=
  match fault.kind with
  | .serialization => "serialization error: " ++ fault.reason
  | .io => "I/O error: " ++ fault.reason

end Fault

/-- What the medium says of a path into a missing directory. -/
def missingDirectory : Fault :=
  .medium "I/O error: No such file or directory (os error 2)"

/-- What the medium says of a file that is in use. -/
def alreadyOpen : Fault :=
  .medium "Database already open. Cannot acquire lock."

end FrameChat.Archive
