import FrameChat.Service.Streams
import FrameChat.Service.Submission
import FrameChat.Text.Hex
import FrameChat.Web.Exchange
import FrameChat.Web.Form

/-!
# Routes

* `GET /~stream` opens a channel, joins it and streams its frames.
* `GET /~token` issues a token for the form.
* `POST /~send` submits a message.
* `GET /~link/channel/index` leads to the link behind a badge.
* `GET /~recent` lists the channels that were active last.

An operation that is abandoned while it works for a request is answered by
status 500, except where it is the answer itself that fails.
-/

namespace FrameChat.Web

open Service

/-- Channels that `/~recent` lists at most. -/
def recentLimit : Nat := 50

/-- What is said of a channel that is not live. -/
def inactive : Response :=
  .plain 404 "channel is not active"

/-- The places of the service; parts of a path are as they were sent. -/
inductive Route where
  | stream
  | token
  | send
  | link (channel index : String)
  | recent
  deriving DecidableEq, Repr

/-- The place that a path names. -/
def Route.ofPath? (path : String) : Option Route :=
  match path.splitOn "/" with
  | ["", "~stream"] => some .stream
  | ["", "~token"] => some .token
  | ["", "~send"] => some .send
  | ["", "~recent"] => some .recent
  | ["", "~link", channel, index] =>
      if index.isEmpty then none else some (.link channel index)
  | _ => none

/-- The method that a place answers. -/
def Route.method : Route → String
  | .send => "POST"
  | _ => "GET"

/-- Refuse a query. -/
def badQuery (fault : FormFault) : Response :=
  .plain 400 ("Failed to deserialize query string: " ++ fault.message)

/-- Refuse a form body. -/
def badForm (fault : FormFault) : Response :=
  .plain 422 ("Failed to deserialize form body: " ++ fault.message)

/-- Refuse a part of a path. -/
def badSegment (name : String) : Response :=
  .plain 400 ("Invalid URL: Invalid UTF-8 in `" ++ name ++ "`")

/-- Answer an operation that was abandoned. -/
def orFailure (operation : Op Response) : Op Response := do
  match ← operation.attempt with
  | .ok response => return response
  | .error _ => return .bare 500

/--
Open a channel and join it.  If it is closed in between, both are tried once
more.
-/
def joinOpened (name identity : String) (viewport : Viewport) (address : Net.Address) :
    (tries : Nat) → Op Response
  | 0 => return .plain 503 AppendFault.closed.message
  | tries + 1 => do
      match ← openChannel name with
      | .error fault => return .plain 400 fault.message
      | .ok channel =>
          match ← join channel identity viewport address with
          | .closed => joinOpened name identity viewport address tries
          | .rejected notice => return .ofFrame notice
          | .joined session =>
              let stream ← openStream channel session
              return ⟨200, some ("multipart/x-mixed-replace; boundary=" ++ Channel.boundary),
                some "no-store", none, .stream stream⟩

/-- Answer `/~stream`. -/
def stream (request : Request) : Op Response := do
  match Form.read [⟨"name", .text⟩, ⟨"screen", .count⟩, ⟨"uid", .text⟩] ["name"] request.query with
  | .error fault => return badQuery fault
  | .ok fields =>
      let intake ← Operation.ask Service.intake
      let name := intake.channelName ((fields.lookup "name").getD "")
      let identity := intake.resolvedIdentity (fields.lookup "uid") request.peer
      let viewport := Viewport.ofScreen (Form.count fields "screen")
      orFailure (joinOpened name identity viewport request.peer 2)

/-- Answer `/~token`. -/
def token (request : Request) : Op Response := do
  match Form.read [⟨"uid", .text⟩] [] request.query with
  | .error fault => return badQuery fault
  | .ok fields =>
      let intake ← Operation.ask Service.intake
      let identity := intake.resolvedIdentity (fields.lookup "uid") request.peer
      return .plain 200 (← issueToken identity request.peer)

/-- The response to a submission. -/
def submissionResponse : Except Refused Accepted → Response
  | .ok (.posted _) | .ok .ignored => .bare 204
  | .ok .dropped => inactive
  | .error refusal =>
      let status := match refusal with
        | .coolingDown => 429
        | .token _ => 403
        | .archive _ => 500
      .plain status refusal.message

/-- The media type of forms. -/
def formType : String := "application/x-www-form-urlencoded"

/-- Whether a request carries a form: its media type begins as that of forms and is plain. -/
def hasForm (request : Request) : Bool :=
  match request.contentType with
  | some contentType =>
      isPlainHeaderText contentType && formType.toList.isPrefixOf contentType.toList
  | none => false

/-- The submission in a form. -/
def submissionOf (intake : Intake) (request : Request) (fields : Fields) : Submission :=
  { channel := (fields.lookup "name").getD ""
    identity := intake.resolvedIdentity (fields.lookup "uid") request.peer
    text := (fields.lookup "text").getD ""
    token := fields.lookup "token"
    address := request.peer }

/-- Answer `/~send`. -/
def send (request : Request) : Op Response := do
  if !hasForm request then
    return .plain 415 ("Form requests must have `Content-Type: " ++ formType ++ "`")
  match Form.read [⟨"name", .text⟩, ⟨"uid", .text⟩, ⟨"text", .text⟩, ⟨"token", .text⟩] ["name"]
      request.body with
  | .error fault => return badForm fault
  | .ok fields =>
      let intake ← Operation.ask Service.intake
      orFailure do
        return submissionResponse (← submit (submissionOf intake request fields))

/-- The number of a badge, as it is written on it. -/
def badgeIndex? (text : String) : Option Nat :=
  (Text.Decimal.readCount 16 UInt64.size text).toOption

/-- The lines that list links by the numbers of their badges. -/
def linkListing (links : List String) : String :=
  String.join (links.zipIdx.map fun (link, index) => Text.Hex.ofNat index ++ ": " ++ link ++ "\n")

/-- Answer `/~link` for a channel and the number of a badge. -/
def linkTo (name index : String) (viewport : Viewport) : Op Response := do
  let service ← Operation.ask id
  match service.find? name with
  | none => return inactive
  | some channel =>
      let channel := service.channel channel
      match (badgeIndex? index).bind (channel.link? viewport) with
      | some link =>
          if isHeaderText link then return .redirect link else .abandon .header
      | none => return .plain 404 (linkListing (channel.links.get viewport))

/-- Answer `/~link`. -/
def link (request : Request) (channel index : String) : Op Response := do
  match Text.Percent.segment? channel, Text.Percent.segment? index with
  | none, _ => return badSegment "channel"
  | some _, none => return badSegment "index"
  | some channel, some index =>
      match Form.read [⟨"screen", .count⟩] [] request.query with
      | .error fault => return badQuery fault
      | .ok fields => linkTo channel index (Viewport.ofScreen (Form.count fields "screen"))

/-- The lines that list channels. -/
def recentListing (live viewers stored : Nat) (recent : List (String × Seconds)) : String :=
  "# live=" ++ toString live ++ " viewers=" ++ toString viewers ++ " stored=" ++ toString stored ++
    "\n" ++ String.join (recent.map fun (name, active) => name ++ "\t" ++ toString active.toInt ++ "\n")

/-- Answer `/~recent`. -/
def recent : Op Response :=
  orFailure do
    match ← onArchive (·.recent recentLimit) with
    | .error fault => return .plain 500 fault.message
    | .ok recent =>
        match ← onArchive (·.channelCount) with
        | .error fault => return .plain 500 fault.message
        | .ok stored =>
            let directory ← Operation.ask Service.directory
            return .plain 200
              (recentListing directory.size directory.totalViewers stored recent)

/-- Whether a place takes a method; what can be got can also be asked about. -/
def Route.takes (route : Route) (method : String) : Bool :=
  method = route.method || (method = "HEAD" && route.method = "GET")

/-- Answer a request at a place. -/
def answerAt (request : Request) : Route → Op Response
  | .stream => stream request
  | .token => token request
  | .send => send request
  | .link channel index => link request channel index
  | .recent => recent

/-- A response without its content: a frame without bytes, a stream whose client is gone. -/
def withoutContent (response : Response) : Op Response := do
  match response.body with
  | .stream index =>
      dropStream index
      return response
  | .frame frame => return { response with body := .frame { frame with byteLength := 0 } }
  | .nothing | .text _ => return { response with body := .nothing }

/-- Answer a request. -/
def answer (request : Request) : Op Response := do
  match Route.ofPath? request.path with
  | none => return .bare 404
  | some route =>
      if route.takes request.method then
        let response ← answerAt request route
        if request.method = "HEAD" then withoutContent response else return response
      else
        return .bare 405

end FrameChat.Web
