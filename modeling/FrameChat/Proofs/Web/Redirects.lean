import FrameChat.Proofs.Intake.Cuts
import FrameChat.Proofs.Web.Names

/-!
# Redirections to links

Whoever asks for a link is redirected to it, and the link is then the value of a header.  A
header holds no control characters but the tab.  A link has no blanks, and so neither tabs nor
the ends of lines; the other control characters are *stray*.  Nothing keeps them out of
messages, and they do not end a link: every web address that fits into a message is recorded
with the stray characters in it.

`redirect_iff_not_stray` says that a redirection to a recorded link is sent exactly if there
are none.  Otherwise the answer itself fails.
-/

namespace FrameChat

/-- Control characters that are no blanks. -/
def Text.isStray (char : Char) : Bool :=
  (char.toNat ≤ 0x1F || char.toNat = 0x7F) && !isBlank char

namespace Intake

/-- A text without blanks that fits is left as it is. -/
theorem cleanMessage_of_unbroken {text : String} {maxBytes maxLines : Nat}
    (unbroken : Text.Unbroken text) (fits : text.utf8ByteSize ≤ maxBytes) :
    cleanMessage text maxBytes maxLines = text := by
  have unblank (char : Char) (blank : Text.isBlank char = true) : char ∉ text.toList := by
    intro member
    rw [unbroken char member] at blank
    cases blank
  have oneLine : text.toList.count '\n' = 0 := List.count_eq_zero.mpr (unblank '\n' rfl)
  exact cleanMessage_eq_self_iff.mpr ⟨unblank '\r' rfl, fits, by omega⟩

end Intake

namespace Web

open Operation Service

/-- A text without blanks can stand in a header if no character is stray. -/
theorem isHeaderText_iff {text : String} (unbroken : Text.Unbroken text) :
    isHeaderText text = true ↔ ∀ char ∈ text.toList, Text.isStray char = false := by
  rw [isHeaderText, List.all_eq_true]
  refine forall₂_congr fun char member => ?_
  have visible := unbroken char member
  have noTab : char ≠ '\t' := by
    rintro rfl
    cases visible
  simp only [Text.isStray, visible, noTab, decide_false, Bool.false_or, Bool.not_false,
    Bool.and_true, Bool.and_eq_true, Bool.or_eq_false_iff, decide_eq_true_eq,
    decide_eq_false_iff_not]
  omega

/-- The links of a service in order have no blanks. -/
theorem unbroken_of_orderly {limits : Intake.Limits} {key : Bytes} {service : Service}
    (orderly : Orderly limits key service) {channel index : Nat} {viewport : Viewport}
    {link : String} (recorded : (service.channel channel).link? viewport index = some link) :
    Text.Unbroken link :=
  (orderly.instances channel).links viewport link (List.mem_of_getElem? recorded)

/-- The answer to a request for a recorded link fails if a character of the link is stray. -/
theorem ends_link_recorded {limits : Intake.Limits} {key : Bytes} {service after : Service}
    {request : Request} {fields : Fields} {segment label name badge link : String}
    {channel index : Nat} {result : Except Operation.Fault Response}
    (orderly : Orderly limits key service) (asks : request.Asks (.link segment label) fields)
    (named : Text.Percent.segment? segment = some name)
    (labelled : Text.Percent.segment? label = some badge)
    (found : service.find? name = some channel) (read : badgeIndex? badge = some index)
    (recorded : (service.channel channel).link? (viewportOf fields) index = some link) :
    Ends (answer request) service result after ↔
      after = service ∧ result =
        if link.toList.any Text.isStray then .error .header else .ok (.redirect link) := by
  have allowed := isHeaderText_iff (unbroken_of_orderly orderly recorded)
  have leads : (badgeIndex? badge).bind ((service.channel channel).link? (viewportOf fields)) =
      some link := by
    rw [read, Option.bind_some, recorded]
  rw [ends_link asks named labelled, linkAnswer, found]
  dsimp only
  rw [badgeAnswer_of_link leads]
  by_cases stray : link.toList.any Text.isStray = true
  · rcases List.any_eq_true.mp stray with ⟨char, member, isStray⟩
    have refused : ¬ isHeaderText link = true := fun held => by
      rw [allowed.mp held char member] at isStray
      cases isStray
    rw [if_pos stray, if_neg refused]
  · have none : ∀ char ∈ link.toList, Text.isStray char = false := fun char member =>
      Bool.eq_false_iff.mpr fun isStray => stray (List.any_eq_true.mpr ⟨char, member, isStray⟩)
    rw [if_neg stray, if_pos (allowed.mpr none)]

/--
The links that a layout records of a message that was let in are runs of its characters
without blanks, and can stand in a header exactly if none of these is stray.  Every web address
without blanks that fits is let in and recorded, with its stray characters.  Whatever a server
is at, a request for a recorded link is answered by a redirection to it if no character is
stray, and fails otherwise.
-/
theorem redirect_iff_not_stray (limits : Intake.Limits) (key : Bytes) (face : Face)
    (table : Emoji.Table) (width : Nat) (author : String) (linkBase : Nat) :
    let layout (text : String) := Layout.ofText face table text width author linkBase
    let clean (raw : String) :=
      Intake.cleanMessage raw limits.maxMessageBytes limits.maxMessageLines
    (∀ {raw link : String}, link ∈ (layout (clean raw)).links →
      (∀ char ∈ link.toList, char ∈ raw.toList ∧ Text.isBlank char = false) ∧
        (isHeaderText link = true ↔ ∀ char ∈ link.toList, Text.isStray char = false)) ∧
      (∀ {text : String}, "http://".toList.isPrefixOf text.toList = true →
        Text.Unbroken text → text.utf8ByteSize ≤ limits.maxMessageBytes →
          linkBase < Layout.maxLinks → clean text = text ∧ text ∈ (layout text).links) ∧
      (∀ {service after : Service} {left : List (Op Unit)} {request : Request}
          {fields : Fields} {segment label name badge link : String} {channel index : Nat}
          {result : Except Operation.Fault Response},
        Running limits key service left → request.Asks (.link segment label) fields →
          Text.Percent.segment? segment = some name → Text.Percent.segment? label = some badge →
            service.find? name = some channel → badgeIndex? badge = some index →
              (service.channel channel).link? (viewportOf fields) index = some link →
                (Ends (answer request) service result after ↔
                  after = service ∧ result =
                    if link.toList.any Text.isStray then .error .header
                    else .ok (.redirect link))) := by
  intro layout clean
  refine ⟨?_, ?_, ?_⟩
  · intro raw link recorded
    have unbroken := Layout.unbroken_of_mem_links recorded
    refine ⟨fun char member => ⟨?_, unbroken char member⟩, isHeaderText_iff unbroken⟩
    exact Intake.mem_of_mem_cleanMessage (Layout.mem_text_of_mem_link recorded member)
  · intro text web unbroken fits room
    exact ⟨Intake.cleanMessage_of_unbroken unbroken fits,
      Layout.mem_links_of_unbroken web unbroken room⟩
  · intro service after left request fields segment label name badge link channel index result
      running asks named labelled found read recorded
    exact ends_link_recorded running.orderly asks named labelled found read recorded

/-! ## A stray character -/

/-- A web address with a stray character. -/
def strayLink : String := "http://a\x01"

theorem read_strayLink :
    Form.read [⟨"name", .text⟩, ⟨"uid", .text⟩, ⟨"text", .text⟩, ⟨"token", .text⟩] ["name"]
      "name=my+room&uid=ann&text=http://a%01" = .ok (fieldsOf strayLink) := by
  rw [Form.read, Form.fields, splitOn_ampersand]
  decide +kernel

theorem unbroken_of_all {text : String}
    (all : text.toList.all (fun char => !Text.isBlank char) = true) : Text.Unbroken text :=
  fun char member => by simpa using List.all_eq_true.mp all char member

theorem unbroken_plainLink : Text.Unbroken plainLink :=
  unbroken_of_all (by decide)

theorem unbroken_strayLink : Text.Unbroken strayLink :=
  unbroken_of_all (by decide)

theorem any_isStray_plainLink : plainLink.toList.any Text.isStray = false := by
  decide

theorem any_isStray_strayLink : strayLink.toList.any Text.isStray = true := by
  decide

theorem isTold_strayLink : isTold strayLink = true := by
  decide +kernel

/-- Whoever asks for the link that Ann submitted is redirected to it. -/
theorem redirect_iff_not_stray_in_room :
    plainLink ∈ (Layout.ofText evenFace .empty (Intake.cleanMessage plainLink 1024 10) 400 "ann"
        0).links ∧
      isHeaderText plainLink = true ∧
      ∃ left, Running unguarded.intake.limits [] (posted plainLink) left ∧
        Ends (answer (visitLink "myroom" "0")) (posted plainLink) (.ok (.redirect plainLink))
          (posted plainLink) := by
  rcases redirect_iff_not_stray unguarded.intake.limits [] evenFace .empty 400 "ann" 0 with
    ⟨allowed, letIn, request⟩
  have recorded : plainLink ∈ (Layout.ofText evenFace .empty
      (Intake.cleanMessage plainLink 1024 10) 400 "ann" 0).links := by
    have short : plainLink.utf8ByteSize ≤ 1024 := by decide
    rcases letIn rfl unbroken_plainLink short (by decide) with ⟨same, recorded⟩
    rw [show Intake.cleanMessage plainLink 1024 10 = plainLink from same]
    exact recorded
  refine ⟨recorded, (allowed recorded).2.mpr fun char member => ?_, ?_⟩
  · exact Bool.eq_false_iff.mpr (List.any_eq_false.mp any_isStray_plainLink char member)
  · rcases running_of_isTold isTold_plainLink read_plainLink with ⟨left, running⟩
    rcases recorded_of_isTold isTold_plainLink with ⟨listed, linked⟩
    rcases segments_read with ⟨clean, -, zero⟩
    refine ⟨left, running, ?_⟩
    rw [request running asks_clean clean zero listed badgeIndex?_zero linked,
      any_isStray_plainLink]
    exact ⟨rfl, rfl⟩

/--
Ann submits a web address with a stray character.  It is recorded as a link, it cannot stand in
a header, and the answer to a request for it fails.
-/
theorem stray_link_is_no_header :
    Begun unguarded.intake.limits [] unguarded ∧
      (∃ response, Ends (answer enterRoom) unguarded (.ok response) entered ∧
        response.body = .stream 0) ∧
      Ends (answer (sendForm "name=my+room&uid=ann&text=http://a%01")) entered (.ok (.bare 204))
        (posted "http://a\x01") ∧
      "http://a\x01" ∈ (Layout.ofText evenFace .empty
        (Intake.cleanMessage "http://a\x01" 1024 10) 400 "ann" 0).links ∧
      isHeaderText "http://a\x01" = false ∧
      (∀ {result after},
        Ends (answer (visitLink "myroom" "0")) (posted "http://a\x01") result after →
          result = .error .header) := by
  refine ⟨begun_unguarded, ends_enterRoom, ends_of_isTold isTold_strayLink read_strayLink, ?_,
    ?_, ?_⟩
  · show strayLink ∈ (Layout.ofText evenFace .empty (Intake.cleanMessage strayLink 1024 10) 400
      "ann" 0).links
    rw [Intake.cleanMessage_of_unbroken unbroken_strayLink (by decide)]
    exact Layout.mem_links_of_unbroken rfl unbroken_strayLink (by decide)
  · rcases List.any_eq_true.mp any_isStray_strayLink with ⟨char, member, stray⟩
    refine Bool.eq_false_iff.mpr fun allowed => ?_
    rw [(isHeaderText_iff unbroken_strayLink).mp allowed char member] at stray
    cases stray
  · intro result after ends
    rcases running_of_isTold isTold_strayLink read_strayLink with ⟨left, running⟩
    rcases recorded_of_isTold isTold_strayLink with ⟨listed, linked⟩
    rcases segments_read with ⟨clean, -, zero⟩
    have answered := (ends_link_recorded running.orderly asks_clean clean zero listed
      badgeIndex?_zero linked).mp ends
    exact answered.2.trans (if_pos any_isStray_strayLink)

end Web

end FrameChat
