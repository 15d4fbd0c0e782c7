import FrameChat.Frame
import FrameChat.Net.Address

/-!
# Requests and responses

What a web server hands over of a request, and what it is to send back.
-/

namespace FrameChat.Web

/-- A request. -/
structure Request where
  method : String
  /-- what is asked for, as it was sent: path and query, perhaps behind the address of the server -/
  target : String
  /-- address that the connection comes from -/
  peer : Net.Address
  contentType : Option String
  body : String

/-- What follows the address of a server at the front of a target, if there is one. -/
def withoutServer : List Char → List Char
  | [] => []
  | ':' :: '/' :: '/' :: rest => rest.dropWhile fun char => char ≠ '/' ∧ char ≠ '?'
  | _ :: rest => withoutServer rest

/-- Path and query of a request; a number sign and what follows it belong to neither. -/
def Request.resource (request : Request) : List Char :=
  let target := request.target.toList.takeWhile (· ≠ '#')
  if target.head? = some '/' then target else withoutServer target

/-- Path of a request. -/
def Request.path (request : Request) : String :=
  String.ofList (request.resource.takeWhile (· ≠ '?'))

/-- Query of a request, empty if there is none. -/
def Request.query (request : Request) : String :=
  String.ofList ((request.resource.dropWhile (· ≠ '?')).drop 1)

/-- The content of a response. -/
inductive Body where
  | nothing
  | text (text : String)
  | frame (frame : Frame)
  /-- the parts of a stream, by its number -/
  | stream (index : Nat)

/-- A response. -/
structure Response where
  status : Nat
  contentType : Option String
  cacheControl : Option String
  location : Option String
  body : Body

namespace Response

/-- A response without content. -/
def bare (status : Nat) : Response :=
  ⟨status, none, none, none, .nothing⟩

/-- A plain text. -/
def plain (status : Nat) (text : String) : Response :=
  ⟨status, some "text/plain; charset=utf-8", none, none, .text text⟩

/-- A single frame. -/
def ofFrame (frame : Frame) : Response :=
  ⟨200, some frame.contentType, none, none, .frame frame⟩

/-- A redirection. -/
def redirect (location : String) : Response :=
  ⟨303, none, none, some location, .nothing⟩

end Response

/-- Whether all characters of a text are visible ASCII ones, spaces or tabs. -/
def isPlainHeaderText (text : String) : Bool :=
  text.toList.all fun char => char = '\t' || (' ' ≤ char && char ≤ '~')

/-- Whether a text can stand in a header: no control characters but the tab. -/
def isHeaderText (text : String) : Bool :=
  text.toList.all fun char => char = '\t' || (0x20 ≤ char.toNat && char.toNat ≠ 0x7F)

end FrameChat.Web
