import FrameChat.Proofs.Channel.Display
import FrameChat.Proofs.Directory.Requests
import FrameChat.Proofs.Intake.Names
import FrameChat.Proofs.Layout.Links
import FrameChat.Proofs.Operation.Upheld
import FrameChat.Proofs.Picture.Anchors
import FrameChat.Proofs.Token.Runs
import FrameChat.Service.Timers

/-!
# Services in order

As long as a process runs, the limits of its intake and the key of its tokens stay the same.
Channels are put into the directory under clean names only, nobody is on a roster twice, and
the links behind badges are read off messages, so that they have no blanks.  A service of
which all this is true is in order.

Every step of every operation keeps a service in order, so that it stays so whatever
happens between two steps of a request.  There is one lemma for each operation; the one that
needs a premise is `upholds_openChannel`, since it takes the name that it is told.
-/

namespace FrameChat

/-- Random bytes are as many as were asked for. -/
theorem Entropy.length_bytes (count : Nat) (entropy : Entropy) :
    (Entropy.bytes count entropy).1.length = count := by
  fun_induction Entropy.bytes count entropy with
  | case1 => rfl
  | case2 entropy count number next drawn rest last more ih =>
      rw [more] at ih
      rw [List.length_append, List.length_take, Bytes.length_littleEndian, ih]
      omega

/-- The links of a scene are read off its messages, so that they have no blanks. -/
theorem Picture.unbroken_of_mem_links {face : Option Face} {table : Emoji.Table} {hasAtlas : Bool}
    {scene : Scene} {viewport : Viewport} {link : String}
    (among : link ∈ (Picture.ofScene face table hasAtlas scene viewport).links) :
    Text.Unbroken link := by
  cases face with
  | none => cases among
  | some face =>
      rw [Picture.links_ofScene] at among
      rcases List.mem_map.mp among with ⟨anchor, stands, rfl⟩
      rcases Composition.exists_stands stands with ⟨message, layout, stands⟩
      rcases stands.begins with ⟨line, link, -, -, begins, same⟩
      rw [same]
      exact Layout.unbroken_of_linkAt begins

namespace Channel

/-- Nobody is on the roster twice, and the links behind the badges have no blanks. -/
structure Tidy (channel : Channel) : Prop where
  reception : channel.reception.InOrder
  links : ∀ viewport, ∀ link ∈ (channel.display viewport).links, Text.Unbroken link

namespace Tidy

variable {channel after : Channel}

theorem of_display (tidy : channel.Tidy) (inOrder : after.reception.InOrder)
    (same : after.display = channel.display) : after.Tidy :=
  ⟨inOrder, fun viewport => same ▸ tidy.links viewport⟩

theorem start (name : String) (settings : Settings) (history : List Message) (active : Seconds)
    (counter : UInt64) (notices : PerViewport Frame) (instant : Nat) :
    (ofHistory name settings history active counter notices instant).Tidy := by
  refine ⟨Reception.inOrder_start notices, fun viewport link among => ?_⟩
  cases viewport <;> cases among

theorem shut : Channel.shut.Tidy :=
  (start "" Settings.standard [] 0 0 ⟨Frame.empty .narrow, Frame.empty .wide⟩ 0).of_display
    (Reception.inOrder_start _) rfl

theorem record (tidy : channel.Tidy) (now : Seconds) (message : Message) :
    (channel.record now message).2.Tidy := by
  refine tidy.of_display ?_ (display_record channel now message)
  rw [reception_record]
  exact tidy.reception

theorem enter (tidy : channel.Tidy) (identity : String) (viewport : Viewport)
    (address : Net.Address) : (channel.enter identity viewport address).2.Tidy :=
  tidy.of_display
    ((admission_enter tidy.reception identity viewport address).inOrder tidy.reception)
    (display_enter channel identity viewport address)

theorem remove (tidy : channel.Tidy) (session : Nat) : (channel.remove session).2.Tidy := by
  refine tidy.of_display ?_ (display_remove channel session)
  rw [reception_remove]
  exact tidy.reception.dismiss session

theorem closeIfIdle (tidy : channel.Tidy) : channel.closeIfIdle.2.Tidy := by
  refine tidy.of_display ?_ (display_closeIfIdle channel)
  rw [reception_closeIfIdle]
  exact tidy.reception

theorem close (tidy : channel.Tidy) : channel.close.Tidy := by
  refine tidy.of_display ?_ (display_close channel)
  rw [reception_close]
  exact tidy.reception

/-- The links of a rendering that is published replace those that were there. -/
theorem publish (tidy : channel.Tidy) (version : Nat) {drawn : PerViewport (Option Rendering)}
    (unbroken : ∀ viewport rendering, drawn.get viewport = some rendering →
      ∀ link ∈ rendering.links, Text.Unbroken link) (renderMs : Nat) :
    (channel.publish version drawn renderMs).2.Tidy := by
  have inOrder : (channel.publish version drawn renderMs).2.reception.InOrder := by
    rw [reception_publish]
    exact tidy.reception
  cases outcome : channel.publish version drawn renderMs with
  | mk published after =>
      rw [outcome] at inOrder
      cases published with
      | false =>
          rcases publish_of_false outcome with ⟨rfl, -⟩
          exact tidy
      | true =>
          refine ⟨inOrder, fun viewport link among => ?_⟩
          rw [display_publish outcome viewport] at among
          cases stored : drawn.get viewport with
          | none =>
              rw [stored] at among
              exact tidy.links viewport link among
          | some rendering =>
              rw [stored] at among
              exact unbroken viewport rendering stored link among

end Tidy

end Channel

namespace Service

open Operation

/-- All instances are tidy. -/
def AllTidy (channels : Array Channel) : Prop :=
  ∀ index, (channels.getD index Channel.shut).Tidy

/-- The limits and the key are those of the process, and names and instances are in order. -/
structure Orderly (limits : Intake.Limits) (key : Bytes) (service : Service) : Prop where
  sameLimits : service.intake.limits = limits
  sameKey : service.intake.guard.key = key
  /-- channels are listed under clean names -/
  names : ∀ entry ∈ service.directory.entries,
    Intake.cleanName entry.1 limits.maxNameChars = entry.1
  instances : AllTidy service.channels

/-- What an order depends on. -/
def premises (service : Service) : Intake × Array Channel × Directory :=
  (service.intake, service.rooms)

variable {limits : Intake.Limits} {key : Bytes} {index : Nat}

/-! ## Instances -/

theorem allTidy_empty : AllTidy #[] := fun _ =>
  Channel.Tidy.shut

theorem AllTidy.set {channels : Array Channel} (allTidy : AllTidy channels) {channel : Channel}
    (tidy : channel.Tidy) (index : Nat) : AllTidy (channels.setIfInBounds index channel) := by
  intro other
  rw [Array.getD_eq_getD_getElem?, Array.getElem?_setIfInBounds]
  split
  case isTrue =>
    split
    · exact tidy
    · exact Channel.Tidy.shut
  case isFalse =>
    rw [← Array.getD_eq_getD_getElem?]
    exact allTidy other

theorem AllTidy.push {channels : Array Channel} (allTidy : AllTidy channels) {channel : Channel}
    (tidy : channel.Tidy) : AllTidy (channels.push channel) := by
  intro other
  rw [Array.getD_eq_getD_getElem?, Array.getElem?_push]
  split
  · exact tidy
  · rw [← Array.getD_eq_getD_getElem?]
    exact allTidy other

theorem allTidy_sweep {swept : List (String × Nat) × Array Channel} (allTidy : AllTidy swept.2)
    (entry : String × Nat) : AllTidy (sweep swept entry).2 := by
  rw [sweep]
  dsimp only
  split
  · exact allTidy.set (allTidy entry.2).closeIfIdle entry.2
  · exact allTidy

theorem allTidy_foldl_sweep {swept : List (String × Nat) × Array Channel}
    (allTidy : AllTidy swept.2) (entries : List (String × Nat)) :
    AllTidy (entries.foldl sweep swept).2 := by
  induction entries generalizing swept with
  | nil => exact allTidy
  | cons entry rest ih => exact ih (allTidy_sweep allTidy entry)

/-! ## Steps -/

namespace Orderly

variable {before after : Service}

theorem of_premises (orderly : Orderly limits key before)
    (same : after.premises = before.premises) : Orderly limits key after := by
  rcases Prod.mk.inj same with ⟨intake, rooms⟩
  rcases Prod.mk.inj rooms with ⟨channels, directory⟩
  exact ⟨intake ▸ orderly.sameLimits, intake ▸ orderly.sameKey, directory ▸ orderly.names,
    channels ▸ orderly.instances⟩

/-- A step on a channel that leaves it tidy. -/
theorem withChannel {α : Type} {act : Channel → α × Channel} (orderly : Orderly limits key before)
    (kept : ∀ channel, channel.Tidy → (act channel).2.Tidy) (index : Nat) :
    Orderly limits key (withChannel index act before).2 :=
  ⟨orderly.sameLimits, orderly.sameKey, orderly.names,
    orderly.instances.set (kept _ (orderly.instances index)) index⟩

/-- The intake may change, but for its limits and its key. -/
theorem withIntake {intake : Intake} (orderly : Orderly limits key before)
    (sameLimits : intake.limits = before.intake.limits)
    (sameKey : intake.guard.key = before.intake.guard.key) :
    Orderly limits key { before with intake } :=
  ⟨sameLimits.trans orderly.sameLimits, sameKey.trans orderly.sameKey, orderly.names,
    orderly.instances⟩

theorem push {channel : Channel} (orderly : Orderly limits key before) (tidy : channel.Tidy) :
    Orderly limits key { before with channels := before.channels.push channel } :=
  ⟨orderly.sameLimits, orderly.sameKey, orderly.names, orderly.instances.push tidy⟩

theorem insert (orderly : Orderly limits key before) {name : String}
    (clean : Intake.cleanName name limits.maxNameChars = name) (closed : Nat → Bool)
    (loaded : Nat) :
    Orderly limits key
      { before with directory := (before.directory.insert closed name loaded).2 } := by
  refine ⟨orderly.sameLimits, orderly.sameKey, fun entry member => ?_, orderly.instances⟩
  rw [Directory.insert] at member
  split at member
  · exact orderly.names entry member
  · rcases List.mem_cons.mp member with rfl | other
    · exact clean
    · exact orderly.names entry (List.mem_of_mem_filter other)

theorem find?_eq (orderly : Orderly limits key before) (raw : String) :
    before.find? raw =
      if Intake.cleanName raw limits.maxNameChars = raw then
        before.find? (Intake.cleanName raw limits.maxNameChars)
      else none := by
  split
  case isTrue clean => rw [clean]
  case isFalse unclean =>
    have unlisted : before.directory.entries.lookup raw = none := by
      rw [List.lookup_eq_none_iff]
      intro entry member
      rw [bne_iff_ne]
      rintro rfl
      exact unclean (orderly.names entry member)
    rw [Service.find?, Directory.find?, unlisted]
    rfl

end Orderly

/-! ## Operations -/

theorem upholds_of_keeps {α : Type} {operation : Op α} (keeps : Keeps premises operation) :
    Upholds (Orderly limits key) (fun _ => True) operation :=
  .of_keeps keeps fun _ _ same orderly => orderly.of_premises same

theorem upholds_act {α : Type} {change : Service → α × Service}
    (kept : ∀ service, Orderly limits key service → Orderly limits key (change service).2) :
    Upholds (Orderly limits key) (fun _ => True) (Operation.act change) :=
  .act fun service orderly => ⟨kept service orderly, trivial⟩

theorem faceless_premises : Faceless premises := fun _ _ => rfl

theorem upholds_onChannel {α : Type} {act : Channel → α × Channel}
    (kept : ∀ channel, channel.Tidy → (act channel).2.Tidy) (index : Nat) :
    Upholds (Orderly limits key) (fun _ => True) (onChannel index act) :=
  upholds_act fun _ orderly => orderly.withChannel kept index

theorem upholds_randomBytes (count : Nat) :
    Upholds (Orderly limits key) (fun bytes => bytes.length = count) (randomBytes count) :=
  .act fun service orderly =>
    ⟨orderly.of_premises rfl, Entropy.length_bytes count service.entropy⟩

theorem upholds_append (index : Nat) (message : Message) :
    Upholds (Orderly limits key) (fun _ => True) (append index message) := by
  refine Upholds.now.bind fun now _ => ?_
  refine (upholds_onChannel (fun _ tidy => tidy.record now message) index).bind
    fun recorded _ => ?_
  exact upholds_of_keeps (keeps_persist premises (fun _ _ => rfl) index now recorded)

/-- What is drawn to its end is the picture, with its links. -/
theorem upholds_draw (picture : Picture) :
    Upholds (Orderly limits key) (fun drawn => drawn.2 = true → drawn.1 = picture)
      (draw picture) := by
  have kept : Upholds (Orderly limits key) (fun _ => True) checkoutFace :=
    upholds_of_keeps (Keeps.act fun _ => rfl)
  have marked : Upholds (Orderly limits key) (fun _ => True) (Operation.draw picture.sheet) :=
    upholds_of_keeps (Keeps.draw picture.sheet)
  have returned (face : Nat) : Upholds (Orderly limits key) (fun _ => True) (giveBackFace face) :=
    upholds_of_keeps (Keeps.modify fun _ => rfl)
  refine kept.bind fun face _ => marked.bind fun _ _ => ?_
  refine (upholds_of_keeps (Keeps.ask _)).bind fun inkFails _ => (returned face).bind fun _ _ => ?_
  split
  · exact .pure nofun
  · exact .pure fun _ => rfl

theorem upholds_render (scene : Scene) (viewport : Viewport) :
    Upholds (Orderly limits key)
      (fun drawn => ∀ rendering, drawn = some rendering →
        ∀ link ∈ rendering.links, Text.Unbroken link)
      (render scene viewport) := by
  refine (upholds_of_keeps (Keeps.ask _)).bind fun studio _ => ?_
  refine (upholds_draw _).bind fun ⟨picture, complete⟩ same => ?_
  cases complete with
  | true =>
      obtain rfl := same rfl
      refine .pure fun rendering encoded link among => ?_
      rcases Option.map_eq_some_iff.mp encoded with ⟨frame, -, rfl⟩
      exact Picture.unbroken_of_mem_links among
  | false => exact .pure nofun

theorem upholds_refresh (index : Nat) :
    Upholds (Orderly limits key) (fun _ => True) (refresh index) := by
  refine (upholds_act fun service orderly => ?_).bind fun snapshot _ => ?_
  · exact orderly.withChannel (fun _ tidy => ⟨tidy.reception, tidy.links⟩) index
  refine Upholds.now.bind fun now _ => ?_
  refine (upholds_of_keeps (Keeps.ask _)).bind fun started _ => ?_
  refine (upholds_render _ _).bind fun narrow narrowRead => ?_
  refine (upholds_render _ _).bind fun wide wideRead => ?_
  refine (upholds_of_keeps (Keeps.ask _)).bind fun ended _ => ?_
  refine upholds_onChannel (fun channel tidy => tidy.publish _ (fun viewport => ?_) _) index
  cases viewport with
  | narrow => exact narrowRead
  | wide => exact wideRead

theorem upholds_addInstance (name : String) (history : List Message) (active : Seconds) :
    Upholds (Orderly limits key) (fun _ => True) (addInstance name history active) := by
  refine (upholds_of_keeps (keeps_renderNotice faceless_premises _ _)).bind fun narrow _ => ?_
  refine (upholds_of_keeps (keeps_renderNotice faceless_premises _ _)).bind fun wide _ => ?_
  refine (upholds_randomBytes 8).bind fun random _ => ?_
  refine (upholds_act fun service orderly => ?_).bind fun channel _ => ?_
  · exact orderly.push (.start ..)
  · exact (upholds_refresh channel).discard.bind fun _ _ => .pure trivial

theorem upholds_load (name : String) :
    Upholds (Orderly limits key) (fun _ => True) (load name) := by
  refine (upholds_of_keeps (Keeps.act fun _ => rfl)).bind fun history _ => ?_
  cases history with
  | error fault => exact .pure trivial
  | ok history =>
      refine (upholds_of_keeps (Keeps.act fun _ => rfl)).bind fun stored _ => ?_
      cases stored with
      | error fault => exact .pure trivial
      | ok stored =>
          cases stored with
          | some active => exact upholds_addInstance name history active
          | none => exact Upholds.now.bind fun now _ => upholds_addInstance name history now

/-- A channel that is opened under a clean name is listed under it, if it was not before. -/
theorem upholds_openChannel {name : String}
    (clean : Intake.cleanName name limits.maxNameChars = name) :
    Upholds (Orderly limits key) (fun _ => True) (openChannel name) := by
  rw [openChannel]
  split
  · exact .pure trivial
  refine (upholds_of_keeps (Keeps.ask _)).bind fun found _ => ?_
  cases found with
  | some existing => exact .pure trivial
  | none =>
      refine (upholds_load name).bind fun answer _ => ?_
      cases answer with
      | error fault => exact .pure trivial
      | ok loaded =>
          refine (upholds_act fun service orderly => ?_).bind fun existing _ => ?_
          · exact orderly.insert clean service.isClosed loaded
          cases existing with
          | none =>
              have timed : Upholds (Orderly limits key) (fun _ => True)
                  (startRefreshTimer loaded) := upholds_of_keeps (Keeps.modify fun _ => rfl)
              exact timed.bind fun _ _ => .pure trivial
          | some existing =>
              exact (upholds_onChannel (fun _ tidy => tidy.close) loaded).bind
                fun _ _ => .pure trivial

theorem upholds_join (index : Nat) (identity : String) (viewport : Viewport)
    (address : Net.Address) :
    Upholds (Orderly limits key) (fun _ => True) (join index identity viewport address) := by
  refine (upholds_onChannel (fun _ tidy => tidy.enter identity viewport address) index).bind
    fun entry _ => ?_
  have redrawn (session : Nat) : Upholds (Orderly limits key) (fun _ => True)
      (do discard (refresh index); return Joined.joined session) :=
    (upholds_refresh index).discard.bind fun _ _ => .pure trivial
  cases entry with
  | closed => exact .pure trivial
  | rejected =>
      exact (upholds_of_keeps (keeps_renderNotice faceless_premises _ _)).bind
        fun notice _ => .pure trivial
  | entered session displaced =>
      cases displaced with
      | true => exact redrawn session
      | false => exact (upholds_append index _).discard.bind fun _ _ => redrawn session

theorem upholds_leave (index session : Nat) :
    Upholds (Orderly limits key) (fun _ => True) (leave index session) := by
  refine (upholds_onChannel (fun _ tidy => tidy.remove session) index).bind fun removed _ => ?_
  cases removed with
  | none => exact .pure trivial
  | some viewer =>
      refine (upholds_onChannel (fun _ tidy => ⟨tidy.reception, tidy.links⟩) index).bind
        fun _ _ => ?_
      refine (upholds_append index _).discard.bind fun _ _ => ?_
      exact (upholds_refresh index).discard

theorem upholds_purge : Upholds (Orderly limits key) (fun _ => True) purge := by
  refine upholds_act fun service orderly => ⟨orderly.sameLimits, orderly.sameKey, ?_, ?_⟩
  · rcases foldl_sweep service.directory.entries [] service.channels with
      ⟨rest, -, kept, fewer, -, -⟩
    intro entry member
    have listed : entry ∈ [] ++ rest := kept ▸ member
    exact orderly.names entry (fewer.subset listed)
  · let begun : List (String × Nat) × Array Channel := ([], service.channels)
    have kept : AllTidy begun.2 := orderly.instances
    exact allTidy_foldl_sweep kept service.directory.entries

/-! ### Submissions and tokens -/

theorem Orderly.pass {before : Service} (orderly : Orderly limits key before)
    (address : Net.Address) (instant : Nat) :
    Orderly limits key { before with intake := (before.intake.pass address instant).2 } := by
  have same : (before.intake.pass address instant).2.limits = before.intake.limits ∧
      (before.intake.pass address instant).2.guard = before.intake.guard := by
    rw [Intake.pass]
    split
    · exact ⟨rfl, rfl⟩
    · split <;> exact ⟨rfl, rfl⟩
  exact orderly.withIntake same.1 (congrArg Token.Guard.key same.2)

theorem upholds_issueToken (stated : String) (address : Net.Address) :
    Upholds (Orderly limits key) (fun _ => True) (issueToken stated address) := by
  refine (upholds_randomBytes _).bind fun nonce _ => Upholds.now.bind fun now _ => ?_
  exact upholds_act fun service orderly => orderly.withIntake rfl rfl

theorem upholds_checkToken (submission : Submission) :
    Upholds (Orderly limits key) (fun _ => True) (checkToken submission) := by
  refine (upholds_of_keeps (Keeps.ask _)).bind fun intake _ => ?_
  split
  · refine Upholds.now.bind fun now _ => upholds_act fun service orderly => ?_
    refine orderly.withIntake rfl ?_
    rcases Token.Guard.exists_spent_of_validate service.intake.guard
      (submission.token.getD "")
      (Intake.binding (intake.identity submission.identity) submission.address)
      (Intake.tokenSeconds now) with ⟨spent, same⟩
    have sameKey := congrArg Token.Guard.key same
    exact sameKey
  · exact .pure trivial

theorem upholds_post (index : Nat) (message : Message) :
    Upholds (Orderly limits key) (fun _ => True) (post index message) := by
  refine (upholds_append index message).bind fun answer _ => ?_
  cases answer with
  | ok numbered => exact (upholds_refresh index).discard.bind fun _ _ => .pure trivial
  | error fault =>
      cases fault with
      | closed => exact .pure trivial
      | archive fault => exact (upholds_refresh index).discard.bind fun _ _ => .pure trivial

theorem upholds_submit (submission : Submission) :
    Upholds (Orderly limits key) (fun _ => True) (submit submission) := by
  refine (upholds_act fun service orderly => ?_).bind fun passes _ => ?_
  · exact orderly.pass submission.address service.uptime
  cases passes with
  | false => exact .pure trivial
  | true =>
      refine (upholds_checkToken submission).bind fun verdict _ => ?_
      cases verdict with
      | error refusal => exact .pure trivial
      | ok granted =>
          refine (upholds_of_keeps (Keeps.ask _)).bind fun service _ => ?_
          dsimp only
          split
          · exact .pure trivial
          · split
            · exact .pure trivial
            · exact upholds_post _ _

/-! ### Streams and timers -/

theorem upholds_serveStream (index : Nat) :
    Upholds (Orderly limits key) (fun _ => True) (serveStream index) := by
  refine upholds_act fun service orderly => ?_
  split
  case h_1 => exact orderly
  case h_2 stream found =>
    split
    case isTrue => exact orderly
    case isFalse =>
      let allowance : Channel.Allowance := if stream.gone then some 0 else none
      have served : Orderly limits key
          (withChannel stream.channel (·.serveSession stream.session allowance) service).2 :=
        orderly.withChannel (fun _ tidy => ⟨tidy.reception, tidy.links⟩) stream.channel
      exact served.of_premises rfl

theorem upholds_serveStreams (indices : List Nat) :
    Upholds (Orderly limits key) (fun _ => True) (serveStreams indices) := by
  induction indices with
  | nil => exact .pure trivial
  | cons index rest ih =>
      exact (upholds_serveStream index).bind fun _ _ => ih.bind fun _ _ => .pure trivial

theorem upholds_leaveAll (sessions : List (Nat × Nat)) :
    Upholds (Orderly limits key) (fun _ => True) (leaveAll sessions) := by
  induction sessions with
  | nil => exact .pure trivial
  | cons entry rest ih =>
      exact (upholds_leave entry.1 entry.2).attempt.discard.bind fun _ _ => ih

theorem upholds_serveRounds (rounds : Nat) :
    Upholds (Orderly limits key) (fun _ => True) (serveRounds rounds) := by
  induction rounds with
  | zero => exact .pure trivial
  | succ rounds ih =>
      refine (upholds_of_keeps (Keeps.ask _)).bind fun count _ => ?_
      refine (upholds_serveStreams _).bind fun leaves _ => ?_
      cases leaves with
      | nil => exact .pure trivial
      | cons leaver others => exact (upholds_leaveAll _).bind fun _ _ => ih

theorem upholds_serveAll : Upholds (Orderly limits key) (fun _ => True) serveAll :=
  (upholds_of_keeps (Keeps.ask _)).bind fun _ _ => upholds_serveRounds _

theorem upholds_addTimer (timer : Timer) :
    Upholds (Orderly limits key) (fun _ => True) (addTimer timer) :=
  upholds_of_keeps (Keeps.modify fun _ => rfl)

theorem upholds_fire (timer : Timer) :
    Upholds (Orderly limits key) (fun _ => True) (fire timer) := by
  cases timer with
  | purge period deadline => exact upholds_purge.discard.bind fun _ _ => upholds_addTimer _
  | refresh index deadline =>
      refine (upholds_of_keeps (Keeps.ask _)).bind fun service _ => ?_
      dsimp only
      split
      · exact .pure trivial
      · split
        · exact (upholds_refresh index).attempt.discard.bind fun _ _ => upholds_addTimer _
        · exact upholds_addTimer _

theorem keeps_premises_nextDue (target : Nat) : Keeps premises (nextDue target) := by
  refine Keeps.act fun service => ?_
  split
  · rfl
  · split <;> rfl

theorem upholds_fireUntil (target bound : Nat) :
    Upholds (Orderly limits key) (fun _ => True) (fireUntil target bound) := by
  induction bound with
  | zero => exact .pure trivial
  | succ bound ih =>
      refine (upholds_of_keeps (keeps_premises_nextDue target)).bind fun due _ => ?_
      cases due with
      | none => exact .pure trivial
      | some timer =>
          exact (upholds_fire timer).bind fun _ _ => upholds_serveAll.bind fun _ _ => ih

theorem upholds_sleep (milliseconds : Nat) :
    Upholds (Orderly limits key) (fun _ => True) (sleep milliseconds) :=
  (upholds_of_keeps (Keeps.ask _)).bind fun _ _ =>
    (upholds_fireUntil _ _).bind fun _ _ => upholds_of_keeps (Keeps.modify fun _ => rfl)

end Service

end FrameChat
