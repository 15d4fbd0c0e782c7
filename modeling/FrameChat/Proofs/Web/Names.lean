import FrameChat.Proofs.Service.Links
import FrameChat.Proofs.Text.Splitting
import FrameChat.Proofs.Web.Requests

/-!
# The names of channels in requests

Whoever opens a stream or submits a message may state the name of the channel in any way:
it is cleaned, and the channel is listed under the clean name.  A request for a link is
answered by the channel that is listed under the name as it is stated.  Only clean names are
listed, so that this is the same channel if the name is clean, and none at all otherwise
(`channel_of_name`).
-/

namespace FrameChat.Web

open Operation Service

/-! ## Requests by what they ask for -/

theorem splitOn_slash (path : String) :
    path.splitOn "/" = (path.toList.splitOn '/').map String.ofList :=
  Text.splitOn_singleton path '/'

theorem splitOn_ampersand (raw : String) :
    raw.splitOn "&" = (raw.toList.splitOn '&').map String.ofList :=
  Text.splitOn_singleton raw '&'

/-- Somebody asks for a target. -/
def visit (target : String) : Request :=
  ⟨"GET", target, .v4 10 0 0 1, none, ""⟩

/-- Somebody asks for a link, by the parts of its path. -/
def visitLink (segment label : String) : Request :=
  visit ("/~link/" ++ segment ++ "/" ++ label)

/-- Somebody sends a form to be submitted. -/
def sendForm (body : String) : Request :=
  ⟨"POST", "/~send", .v4 10 0 0 1, some formType, body⟩

/-- The characters that end a part of a path. -/
def isPathBreak (char : Char) : Bool :=
  char = '/' || char = '?' || char = '#'

/-- The characters of the path of a link. -/
def linkPath (segment label : String) : List Char :=
  '/' :: (['~', 'l', 'i', 'n', 'k'] ++ '/' :: (segment.toList ++ '/' :: label.toList))

section

variable {segment label : String}

theorem target_visitLink (segment label : String) :
    (visitLink segment label).target = String.ofList (linkPath segment label) := by
  rw [← String.toList_inj, visitLink, visit, String.toList_append, String.toList_append,
    String.toList_append, String.toList_ofList]
  simp [linkPath]

theorem isPathBreak_of_mem (whole : (segment ++ label).toList.any isPathBreak = false) {char : Char}
    (part : char ∈ segment.toList ∨ char ∈ label.toList) : isPathBreak char = false := by
  rw [← List.mem_append, ← String.toList_append] at part
  exact Bool.eq_false_iff.mpr (List.any_eq_false.mp whole char part)

/-- The path of a link has no query and no fragment. -/
theorem plain_of_mem_linkPath (whole : (segment ++ label).toList.any isPathBreak = false)
    {char : Char} (member : char ∈ linkPath segment label) : char ≠ '?' ∧ char ≠ '#' := by
  have cases : char ∈ ['/', '~', 'l', 'i', 'n', 'k'] ∨
      char ∈ segment.toList ∨ char ∈ label.toList := by
    simp only [linkPath, List.mem_cons, List.mem_append, List.not_mem_nil, or_false] at member ⊢
    tauto
  rcases cases with fixed | part
  · constructor <;> (rintro rfl; revert fixed; decide)
  · constructor <;> (rintro rfl; exact absurd (isPathBreak_of_mem whole part) (by decide))

theorem resource_visitLink (whole : (segment ++ label).toList.any isPathBreak = false) :
    (visitLink segment label).resource = linkPath segment label := by
  have all : (linkPath segment label).takeWhile (· ≠ '#') = linkPath segment label :=
    List.takeWhile_eq_self_iff.mpr fun char member => by
      simpa using (plain_of_mem_linkPath whole member).2
  rw [Request.resource, target_visitLink, String.toList_ofList, all]
  exact if_pos rfl

/-- The parts of the path of a link are read as they were written. -/
theorem ofPath?_linkPath (whole : (segment ++ label).toList.any isPathBreak = false)
    (labelled : label.isEmpty = false) :
    Route.ofPath? (String.ofList (linkPath segment label)) = some (.link segment label) := by
  have slashless (part : '/' ∈ segment.toList ∨ '/' ∈ label.toList) : False :=
    absurd (isPathBreak_of_mem whole part) (by decide)
  rw [Route.ofPath?, splitOn_slash, String.toList_ofList,
    show linkPath segment label = [] ++ '/' :: _ from rfl,
    List.splitOn_append_cons_self_of_not_mem List.not_mem_nil,
    List.splitOn_append_cons_self_of_not_mem (by decide),
    List.splitOn_append_cons_self_of_not_mem fun member => slashless (.inl member),
    List.splitOn_eq_singleton fun member => slashless (.inr member)]
  simp only [List.map_cons, List.map_nil, String.ofList_toList]
  show (if label.isEmpty then none else some (Route.link segment label)) = _
  rw [labelled, if_neg Bool.false_ne_true]

/-- Whoever visits a link asks for it, and states nothing else. -/
theorem asks_visitLink (whole : (segment ++ label).toList.any isPathBreak = false)
    (labelled : label.isEmpty = false) :
    (visitLink segment label).Asks (.link segment label) [] where
  method := rfl
  path := by
    have all : (linkPath segment label).takeWhile (· ≠ '?') = linkPath segment label :=
      List.takeWhile_eq_self_iff.mpr fun char member => by
        simpa using (plain_of_mem_linkPath whole member).1
    rw [Request.path, resource_visitLink whole, all, ofPath?_linkPath whole labelled]
  form := nofun
  read := by
    have none : (linkPath segment label).dropWhile (· ≠ '?') = [] :=
      List.dropWhile_eq_nil_iff.mpr fun char member => by
        simpa using (plain_of_mem_linkPath whole member).1
    rw [Request.read, Request.query, resource_visitLink whole, none, Form.read, Form.fields,
      splitOn_ampersand]
    decide

end

/-- Whoever sends a form asks for a submission, if the fields of the form can be read. -/
theorem asks_sendForm {body : String} {fields : Fields}
    (read : Form.read [⟨"name", .text⟩, ⟨"uid", .text⟩, ⟨"text", .text⟩, ⟨"token", .text⟩]
      ["name"] body = .ok fields) :
    (sendForm body).Asks .send fields where
  method := rfl
  path := by
    show Route.ofPath? (visit "/~send").path = some .send
    rw [Route.ofPath?, splitOn_slash]
    decide
  form := fun _ => by
    show hasForm (sendForm "") = true
    decide
  read := read

/-! ## The channel of a name -/

variable {limits : Intake.Limits} {key : Bytes} {service : Service} {left : List (Op Unit)}

/-- A channel is looked for under a clean name, or in vain. -/
theorem linkAnswer_eq (orderly : Orderly limits key service) (raw : String) (viewport : Viewport)
    (badge : String) :
    linkAnswer service raw viewport badge =
      if Intake.cleanName raw limits.maxNameChars = raw then
        linkAnswer service (Intake.cleanName raw limits.maxNameChars) viewport badge
      else .ok inactive := by
  by_cases clean : Intake.cleanName raw limits.maxNameChars = raw
  · rw [if_pos clean, clean]
  · rw [if_neg clean, linkAnswer, orderly.find?_eq, if_neg clean]

/--
The channel of a name, whatever a server is at.  A stream and a submission that state a name
are for the channel that is listed under the clean name.  So is a request for a link if the
name is clean, that is, if it is short enough and without the signs that names do not have.
Under any other name the answer is that the channel is not active, also if it is.
-/
theorem channel_of_name (running : Running limits key service left) (raw : String) :
    let name := Intake.cleanName raw limits.maxNameChars
    (∀ {request : Request} {fields : Fields} {response : Response} {after : Service}
        {stream : Nat},
      request.Asks .stream fields → rawName fields = raw →
        Ends (answer request) service (.ok response) after → response.body = .stream stream →
          ∃ channel session, Watches name (limits.identityOf (fields.lookup "uid") request.peer)
            (viewportOf fields) request.peer stream channel session after) ∧
      (∀ {request : Request} {fields : Fields} {response : Response} {after : Service}
          {shows : Option Seconds → Prop},
        request.Asks .send fields → rawName fields = raw →
          EndsWhile shows (answer request) service (.ok response) after →
            Submits shows limits name
              (Intake.cleanName (limits.identityOf (fields.lookup "uid") request.peer)
                limits.maxIdentityChars)
              (cleanText limits fields) (presented fields) request.peer service response after) ∧
      (∀ {request : Request} {fields : Fields} {segment label badge : String}
          {result : Except Operation.Fault Response} {after : Service},
        request.Asks (.link segment label) fields →
          Text.Percent.segment? segment = some raw → Text.Percent.segment? label = some badge →
            (Ends (answer request) service result after ↔
              after = service ∧ result =
                if name = raw then linkAnswer service name (viewportOf fields) badge
                else .ok inactive)) ∧
      (name = raw ↔
        raw.length ≤ limits.maxNameChars ∧ ∀ char ∈ raw.toList, Intake.isNameChar char = true) := by
  intro name
  have orderly := running.orderly
  refine ⟨?_, ?_, ?_, Intake.cleanName_eq_self_iff⟩
  · rintro request fields response after stream asks rfl ends streams
    exact ends_stream orderly asks ends streams
  · rintro request fields response after shows asks rfl ends
    have submits := ends_send asks ends
    rw [Intake.identity, orderly.sameLimits] at submits
    exact submits
  · intro request fields segment label badge result after asks named labelled
    rw [ends_link asks named labelled, linkAnswer_eq orderly]

/-! ## A name with a space -/

/-- What an operation that is run alone returns. -/
def replyOf {α : Type} (operation : Op α) (service : Service) : Except Operation.Fault α :=
  (Service.run operation service).1

/-- The service that an operation leaves when it is run alone. -/
def leftBy {α : Type} (operation : Op α) (service : Service) : Service :=
  (Service.run operation service).2

theorem ends_of_replyOf {α : Type} {operation : Op α} {service : Service}
    {result : Except Operation.Fault α} (reply : replyOf operation service = result) :
    Ends operation service result (leftBy operation service) :=
  .of_run reply

/-- A service with a font that wants no tokens, before the first request. -/
def unguarded : Service :=
  { bare with
    studio := ⟨some evenFace, .empty, none, .webp, ⟨fun _ _ => some 1⟩⟩
    intake := Intake.new { Intake.Limits.standard with requireToken := false } [] }

/-- Ann opens a channel under a name with a space. -/
def enterRoom : Request := visit "/~stream?name=my+room&uid=ann"

/-- What comes of the request for the channel. -/
def enteringRoom : Op Response :=
  joinOpened "myroom" "ann" .narrow (.v4 10 0 0 1) 2

/-- The channel is live, and Ann watches it. -/
def entered : Service := leftBy enteringRoom unguarded

/-- The fields of a submission by Ann to the channel, under the name with a space. -/
def fieldsOf (text : String) : Fields :=
  [("name", "my room"), ("uid", "ann"), ("text", text)]

/-- What comes of the submission. -/
def submitting (text : String) : Op (Except Refused Accepted) :=
  submit ⟨"my room", "ann", text, none, .v4 10 0 0 1⟩

/-- A service where Ann submitted a text. -/
def posted (text : String) : Service := leftBy (submitting text) entered

/-- A link that Ann submits. -/
def plainLink : String := "http://a"

theorem begun_unguarded : Begun unguarded.intake.limits [] unguarded :=
  ⟨rfl, rfl, allTidy_empty⟩

theorem cleanName_my_room :
    Intake.cleanName "my room" unguarded.intake.limits.maxNameChars = "myroom" := by
  decide

theorem identityOf_ann :
    unguarded.intake.limits.identityOf (some "ann") (.v4 10 0 0 1) = "ann" := by
  rfl

theorem asks_enterRoom : enterRoom.Asks .stream [("name", "my room"), ("uid", "ann")] where
  method := rfl
  path := by
    rw [Route.ofPath?, splitOn_slash]
    decide
  form := nofun
  read := by
    rw [Request.read, Form.read, Form.fields, splitOn_ampersand]
    decide +kernel

theorem read_plainLink :
    Form.read [⟨"name", .text⟩, ⟨"uid", .text⟩, ⟨"text", .text⟩, ⟨"token", .text⟩] ["name"]
      "name=my+room&uid=ann&text=http://a" = .ok (fieldsOf plainLink) := by
  rw [Form.read, Form.fields, splitOn_ampersand]
  decide +kernel

/-- Somebody asks for the first link of Ann's channel, by its name. -/
theorem asks_clean : (visitLink "myroom" "0").Asks (.link "myroom" "0") [] :=
  asks_visitLink (by decide) (by decide)

/-- Somebody asks for the first link of Ann's channel, by the name that Ann states. -/
theorem asks_stated : (visitLink "my%20room" "0").Asks (.link "my%20room" "0") [] :=
  asks_visitLink (by decide) (by decide)

/-- What the parts of the paths are read as. -/
theorem segments_read :
    Text.Percent.segment? "myroom" = some "myroom" ∧
      Text.Percent.segment? "my%20room" = some "my room" ∧
      Text.Percent.segment? "0" = some "0" := by
  decide +kernel

theorem badgeIndex?_zero : badgeIndex? "0" = some 0 := by
  decide

theorem isHeaderText_plainLink : isHeaderText plainLink = true := by
  decide

/-- The number of the stream that an answer is. -/
def streamOf : Except Operation.Fault Response → Option Nat
  | .ok ⟨_, _, _, _, .stream stream⟩ => some stream
  | _ => none

theorem exists_of_streamOf {answer : Except Operation.Fault Response} {stream : Nat}
    (streams : streamOf answer = some stream) :
    ∃ response, answer = .ok response ∧ response.body = .stream stream := by
  unfold streamOf at streams
  split at streams
  · cases streams
    exact ⟨_, rfl, rfl⟩
  · cases streams

/-- Whether a submission was posted. -/
def isPosted : Except Operation.Fault (Except Refused Accepted) → Bool
  | .ok (.ok (.posted _)) => true
  | _ => false

theorem exists_of_isPosted {answer : Except Operation.Fault (Except Refused Accepted)}
    (accepted : isPosted answer = true) : ∃ message, answer = .ok (.ok (.posted message)) := by
  unfold isPosted at accepted
  split at accepted
  · exact ⟨_, rfl⟩
  · cases accepted

/-- Whether Ann's channel was opened, and a link that she submits is recorded there. -/
def isTold (link : String) : Bool :=
  streamOf (replyOf enteringRoom unguarded) == some 0 &&
    isPosted (replyOf (submitting link) entered) &&
    (posted link).find? "myroom" == some 0 &&
    ((posted link).channel 0).link? .narrow 0 == some link

theorem isTold_plainLink : isTold plainLink = true := by
  decide +kernel

theorem ends_enterRoom :
    ∃ response, Ends (answer enterRoom) unguarded (.ok response) entered ∧
      response.body = .stream 0 := by
  have told := isTold_plainLink
  simp only [isTold, Bool.and_eq_true, beq_iff_eq] at told
  rcases exists_of_streamOf told.1.1.1 with ⟨response, ran, streams⟩
  have joining : Ends (joinOpened (Intake.cleanName "my room"
      unguarded.intake.limits.maxNameChars)
        (unguarded.intake.limits.identityOf (some "ann") (.v4 10 0 0 1)) .narrow (.v4 10 0 0 1) 2)
      unguarded (.ok response) entered := by
    rw [cleanName_my_room, identityOf_ann]
    exact ends_of_replyOf ran
  exact ⟨response, (ends_answer_stream asks_enterRoom rfl).mpr (ends_orFailure.mpr (.inl joining)),
    streams⟩

theorem running_entered : ∃ left, Running unguarded.intake.limits [] entered left := by
  rcases ends_enterRoom with ⟨response, ends, -⟩
  rcases Running.answered (.start begun_unguarded) ends with ⟨rest, running⟩
  exact ⟨[rest], running⟩

/-- What is told of a link is what comes of Ann's submission. -/
theorem ends_of_isTold {body link : String} (told : isTold link = true)
    (read : Form.read [⟨"name", .text⟩, ⟨"uid", .text⟩, ⟨"text", .text⟩, ⟨"token", .text⟩]
      ["name"] body = .ok (fieldsOf link)) :
    Ends (answer (sendForm body)) entered (.ok (.bare 204)) (posted link) := by
  have identity : entered.intake.resolvedIdentity (some "ann") (.v4 10 0 0 1) = "ann" := by
    rcases running_entered with ⟨left, running⟩
    rw [Intake.resolvedIdentity_eq, running.orderly.sameLimits, identityOf_ann]
  have submission : submissionOf entered.intake (sendForm body) (fieldsOf link) =
      ⟨"my room", "ann", link, none, .v4 10 0 0 1⟩ := by
    rw [← identity]
    rfl
  simp only [isTold, Bool.and_eq_true] at told
  rcases exists_of_isPosted told.1.1.2 with ⟨message, ran⟩
  have posting : Ends (submitting link) entered (.ok (.ok (.posted message))) (posted link) :=
    ends_of_replyOf ran
  rw [submitting, ← submission] at posting
  exact Ends.answer_send (asks_sendForm read) posting

theorem recorded_of_isTold {link : String} (told : isTold link = true) :
    (posted link).find? "myroom" = some 0 ∧
      ((posted link).channel 0).link? .narrow 0 = some link := by
  simp only [isTold, Bool.and_eq_true, beq_iff_eq] at told
  exact ⟨told.1.2, told.2⟩

theorem running_of_isTold {body link : String} (told : isTold link = true)
    (read : Form.read [⟨"name", .text⟩, ⟨"uid", .text⟩, ⟨"text", .text⟩, ⟨"token", .text⟩]
      ["name"] body = .ok (fieldsOf link)) :
    ∃ left, Running unguarded.intake.limits [] (posted link) left := by
  rcases running_entered with ⟨left, running⟩
  rcases running.answered (ends_of_isTold told read) with ⟨rest, running⟩
  exact ⟨rest :: left, running⟩

/-- The name that Ann states is not clean. -/
theorem cleanName_my_room_ne :
    Intake.cleanName "my room" unguarded.intake.limits.maxNameChars ≠ "my room" := by
  rw [cleanName_my_room]
  exact ne_of_beq_false rfl

/-- Ann's channel is live, but for links not under the name that Ann states. -/
theorem channel_of_name_with_space :
    ∃ left, Running unguarded.intake.limits [] (posted plainLink) left ∧
      (posted plainLink).find? "myroom" = some 0 ∧
      Ends (answer (visitLink "my%20room" "0")) (posted plainLink) (.ok inactive)
        (posted plainLink) := by
  rcases running_of_isTold isTold_plainLink read_plainLink with ⟨left, running⟩
  rcases channel_of_name running "my room" with ⟨-, -, link, -⟩
  rcases segments_read with ⟨-, stated, zero⟩
  refine ⟨left, running, (recorded_of_isTold isTold_plainLink).1, ?_⟩
  rw [link asks_stated stated zero, if_neg cleanName_my_room_ne]
  exact ⟨rfl, rfl⟩

/--
Ann opens a channel under a name with a space and submits a link there under the same name.
The link is found under the clean name; under Ann's name, the channel is not active.
-/
theorem link_of_stated_name_is_missed :
    Begun unguarded.intake.limits [] unguarded ∧
      (∃ response, Ends (answer enterRoom) unguarded (.ok response) entered ∧
        response.body = .stream 0) ∧
      Ends (answer (sendForm "name=my+room&uid=ann&text=http://a")) entered (.ok (.bare 204))
        (posted "http://a") ∧
      Ends (answer (visitLink "myroom" "0")) (posted "http://a") (.ok (.redirect "http://a"))
        (posted "http://a") ∧
      (∀ {result after},
        Ends (answer (visitLink "my%20room" "0")) (posted "http://a") result after →
          result = .ok inactive) := by
  rcases segments_read with ⟨clean, stated, zero⟩
  refine ⟨begun_unguarded, ends_enterRoom, ends_of_isTold isTold_plainLink read_plainLink, ?_, ?_⟩
  · rcases recorded_of_isTold isTold_plainLink with ⟨listed, recorded⟩
    have found : (badgeIndex? "0").bind (((posted plainLink).channel 0).link? .narrow) =
        some plainLink := by
      rw [badgeIndex?_zero, Option.bind_some, recorded]
    have redirected : linkAnswer (posted plainLink) "myroom" .narrow "0" =
        .ok (.redirect "http://a") := by
      rw [linkAnswer, listed]
      exact (badgeAnswer_of_link found).trans (if_pos isHeaderText_plainLink)
    exact (ends_link asks_clean clean zero).mpr ⟨rfl, redirected.symm⟩
  · intro result after ends
    rcases running_of_isTold isTold_plainLink read_plainLink with ⟨left, running⟩
    have answered := ((ends_link asks_stated stated zero).mp ends).2
    exact answered.trans ((linkAnswer_eq running.orderly ..).trans (if_neg cleanName_my_room_ne))

end FrameChat.Web
