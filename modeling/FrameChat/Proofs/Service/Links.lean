import FrameChat.Proofs.Channel.Display
import FrameChat.Proofs.Operation.Amid
import FrameChat.Proofs.Picture.Anchors
import FrameChat.Proofs.Service.Footprints
import FrameChat.Web.Routes

/-!
# Links behind badges

A viewer sees a badge with a number and asks the channel for the link of that
number.  `badges_lead_to_links` says that this is the link whose text begins under
the badge: the badges of a frame carry the numbers from zero on, each at the anchor
at which the link of the number begins, and after a refresh that published the
frame the channel leads from every number to its link, and from larger numbers
nowhere.  In a viewport for which nothing was drawn, frame and links stay together.

Drawing takes a while, and other requests are served meanwhile.  The statement is
therefore about operations that end amid others; a refresh publishes what it drew
in whatever state it finds its channel then (`exists_publish`), and what it makes of
the channel is said of every publication (`Channel.answers_of_publish`).
-/

namespace FrameChat

open FrameChat.Composition (anchors badgesFrom)
open Operation (Ends EndsAmid ends_act ends_act_bind ends_ask_bind ends_bind ends_now_bind)

/-- The badges of a rendering are those of the anchors of its scene, and its links begin there. -/
structure Rendering.Anchored (face : Face) (table : Emoji.Table) (viewport : Viewport)
    (scene : Scene) (rendering : Rendering) : Prop where
  few : rendering.links.length ≤ Layout.maxLinks
  /-- the badges carry all numbers from zero on, in the order in which they are drawn -/
  labels : rendering.frame.picture.sheet.badges.map Badge.label =
    (List.range rendering.links.length).map Text.Hex.ofNat
  /-- the number on a badge is read as its position -/
  read : ∀ {index : Nat} {badge : Badge},
    rendering.frame.picture.sheet.badges[index]? = some badge →
      Web.badgeIndex? badge.label = some index
  badges : rendering.frame.picture.sheet.badges = badgesFrom 0 (anchors face table viewport scene)
  links : rendering.links = (anchors face table viewport scene).map Composition.Anchor.link
  ordered : (anchors face table viewport scene).Pairwise Composition.Anchor.Precedes
  stands : ∀ anchor ∈ anchors face table viewport scene, ∃ message layout,
    anchor.Stands face table viewport scene message layout

/--
A channel has the frame of a rendering; it leads from the badges of the frame to their links,
and from other numbers nowhere.
-/
structure Channel.Answers (viewport : Viewport) (channel : Channel) (rendering : Rendering) :
    Prop where
  frame : channel.frames.get viewport = some rendering.frame
  link : ∀ index, channel.link? viewport index = rendering.links[index]?
  badge : ∀ {index : Nat} {badge : Badge},
    rendering.frame.picture.sheet.badges[index]? = some badge →
      (Web.badgeIndex? badge.label).bind (channel.link? viewport) = rendering.links[index]?
  larger : ∀ index, rendering.links.length ≤ index → channel.link? viewport index = none

theorem Web.badgeIndex?_hex : ∀ index < Layout.maxLinks,
    Web.badgeIndex? (Text.Hex.ofNat index) = some index := by
  decide

theorem Rendering.badgeIndex?_of_labels {rendering : Rendering}
    (few : rendering.links.length ≤ Layout.maxLinks)
    (labels : rendering.frame.picture.sheet.badges.map Badge.label =
      (List.range rendering.links.length).map Text.Hex.ofNat)
    {index : Nat} {badge : Badge}
    (drawn : rendering.frame.picture.sheet.badges[index]? = some badge) :
    Web.badgeIndex? badge.label = some index := by
  have label := congrArg (·[index]?) labels
  simp only [List.getElem?_map, drawn, Option.map_some] at label
  by_cases inside : index < rendering.links.length
  · rw [List.getElem?_range inside, Option.map_some] at label
    rw [Option.some.inj label]
    exact Web.badgeIndex?_hex index (Nat.lt_of_lt_of_le inside few)
  · rw [List.getElem?_eq_none (by simpa using inside)] at label
    cases label

theorem Channel.exists_drawn_of_publish {channel after : Channel} {version renderMs : Nat}
    {drawn : PerViewport (Option Rendering)}
    (published : channel.publish version drawn renderMs = (true, after)) :
    ∃ viewport rendering, drawn.get viewport = some rendering := by
  rcases drawn with ⟨narrow, wide⟩
  cases narrow with
  | some rendering => exact ⟨.narrow, rendering, rfl⟩
  | none =>
      cases wide with
      | some rendering => exact ⟨.wide, rendering, rfl⟩
      | none =>
          rw [Channel.publish] at published
          split at published <;> cases published

theorem Channel.answers_of_publish {channel after : Channel} {version renderMs : Nat}
    {drawn : PerViewport (Option Rendering)} {viewport : Viewport} {rendering : Rendering}
    (published : channel.publish version drawn renderMs = (true, after))
    (stored : drawn.get viewport = some rendering)
    (few : rendering.links.length ≤ Layout.maxLinks)
    (labels : rendering.frame.picture.sheet.badges.map Badge.label =
      (List.range rendering.links.length).map Text.Hex.ofNat) :
    after.Answers viewport rendering := by
  have displayed := Channel.display_publish published viewport
  rw [stored] at displayed
  have frame : after.frames.get viewport = some rendering.frame := congrArg Display.frame displayed
  have links : after.links.get viewport = rendering.links := congrArg Display.links displayed
  have link (index : Nat) : after.link? viewport index = rendering.links[index]? := by
    rw [Channel.link?, links]
  refine ⟨frame, link, fun {index badge} drawn => ?_, fun index beyond => ?_⟩
  · rw [Rendering.badgeIndex?_of_labels few labels drawn, Option.bind_some, link]
  · rw [link, List.getElem?_eq_none beyond]

namespace Service

/-- What may happen to a service meanwhile: it draws as before, and no instance is taken away. -/
def Meanwhile (before after : Service) : Prop :=
  after.studio = before.studio ∧ before.channels.size ≤ after.channels.size

/-- What may become of a scene that is drawn with a studio, amid other requests. -/
def Renders (studio : Studio) (scene : Scene) (viewport : Viewport) (drawn : Option Rendering) :
    Prop :=
  ∃ before after, before.studio = studio ∧
    EndsAmid Meanwhile (render scene viewport) before drawn after

variable {scene : Scene} {viewport : Viewport} {rendering : Rendering}

theorem eq_of_draw {others : Service → Service → Prop} {picture drawn : Picture}
    {before after : Service} (ends : EndsAmid others (draw picture) before (drawn, true) after) :
    drawn = picture ∧ picture.sheet.faulted = false := by
  rcases ends.bind with ⟨face, _, -, ends⟩
  rcases ends.bind with ⟨_, _, -, ends⟩
  rcases ends.bind with ⟨inkFails, _, -, ends⟩
  rcases ends.bind with ⟨_, _, -, ends⟩
  split at ends
  · cases ends.pure.1
  · rcases Prod.mk.inj ends.pure.1 with ⟨same, complete⟩
    exact ⟨same, by simpa using complete⟩

/-- A frame is the picture of its scene, drawn to its end, and has the links of the picture. -/
theorem Renders.picture {studio : Studio}
    (renders : Renders studio scene viewport (some rendering)) :
    let picture := Picture.ofScene studio.face studio.table studio.atlas.isSome scene viewport
    picture.sheet.faulted = false ∧ rendering.frame.picture = picture ∧
      rendering.links = picture.links := by
  rcases renders with ⟨before, after, rfl, ends⟩
  rcases ends.bind with ⟨studio, middle, asked, ends⟩
  rcases asked.ask with ⟨met, rfl⟩
  rw [met.1] at ends
  rcases ends.bind with ⟨⟨picture, complete⟩, _, drawn, ends⟩
  cases complete with
  | false => cases ends.pure.1
  | true =>
      rcases eq_of_draw drawn with ⟨rfl, sound⟩
      rcases Option.map_eq_some_iff.mp ends.pure.1.symm with ⟨frame, encoded, rfl⟩
      rcases Option.map_eq_some_iff.mp encoded with ⟨byteLength, -, rfl⟩
      exact ⟨sound, rfl, rfl⟩

/-- Every rendering of a scene has its links where its badges are. -/
theorem Renders.anchored {studio : Studio}
    (renders : Renders studio scene viewport (some rendering)) :
    ∃ face, studio.face = some face ∧ rendering.Anchored face studio.table viewport scene := by
  rcases renders.picture with ⟨sound, picture, links⟩
  cases drawnWith : studio.face with
  | none =>
      rw [drawnWith] at sound
      cases sound
  | some face =>
      rw [drawnWith] at sound picture links
      have badges : rendering.frame.picture.sheet.badges =
          badgesFrom 0 (anchors face studio.table viewport scene) := by
        rw [picture, Picture.badges_ofScene sound]
      replace links := links.trans Picture.links_ofScene
      have few : rendering.links.length ≤ Layout.maxLinks := by
        rw [links, List.length_map]
        exact List.length_take_le _ _
      have labels : rendering.frame.picture.sheet.badges.map Badge.label =
          (List.range rendering.links.length).map Text.Hex.ofNat := by
        rw [badges, Composition.map_label_badgesFrom, links, List.length_map,
          List.range_eq_range']
      exact ⟨face, rfl, few, labels, Rendering.badgeIndex?_of_labels few labels, badges, links,
        Composition.anchors_ordered _ _ _ _, fun anchor member => Composition.exists_stands member⟩

theorem Meanwhile.refl (service : Service) : Meanwhile service service :=
  ⟨rfl, Nat.le_refl _⟩

theorem Meanwhile.trans {first second third : Service} (start : Meanwhile first second)
    (rest : Meanwhile second third) : Meanwhile first third :=
  ⟨rest.1.trans start.1, Nat.le_trans start.2 rest.2⟩

theorem meanwhile_withChannel {α : Type} (index : Nat) (act : Channel → α × Channel)
    (service : Service) :
    Meanwhile service (withChannel index act service).2 :=
  ⟨rfl, Nat.le_of_eq (size_withChannel index act service).symm⟩

/-- One step on a channel, as the channel has it. -/
theorem channel_of_withChannel {α : Type} {index : Nat} {act : Channel → α × Channel}
    {before after : Service} {value : α} (loaded : index < before.channels.size)
    (stepped : withChannel index act before = (value, after)) :
    act (before.channel index) = (value, after.channel index) := by
  have value : (withChannel index act before).1 = value := congrArg Prod.fst stepped
  have stored := channel_withChannel act loaded
  rw [stepped] at stored
  exact Prod.ext value stored.symm

theorem meanwhile_of_render {drawn : Option Rendering} {before after : Service}
    (ends : EndsAmid Meanwhile (render scene viewport) before drawn after) :
    Meanwhile before after := by
  have faceless : Faceless fun service => (service.studio, service.channels) := fun _ _ => rfl
  refine ends.obeys Meanwhile.refl Meanwhile.trans
    (Operation.Obeys.of_keeps (keeps_render faceless scene viewport) fun state next same => ?_)
  rcases Prod.mk.inj same with ⟨studio, channels⟩
  exact ⟨studio, Nat.le_of_eq (congrArg Array.size channels.symm)⟩

/-- A refresh publishes what it drew from its snapshot, in whatever state the channel is then. -/
theorem exists_publish {index : Nat} {before after : Service}
    (loaded : index < before.channels.size)
    (published : EndsAmid Meanwhile (refresh index) before true after) :
    ∃ (met last : Service) (now : Seconds) (drawn : PerViewport (Option Rendering))
      (renderMs : Nat),
      let snapshot := ((met.channel index).snapshot met.instant).1
      (∀ viewport,
        Renders before.studio (snapshot.scene viewport now) viewport (drawn.get viewport)) ∧
      Meanwhile before met ∧ Meanwhile met last ∧
      (last.channel index).publish snapshot.version drawn renderMs =
        (true, after.channel index) := by
  -- Every step is met by a state that others may have left; only what `Meanwhile` keeps is known.
  rcases published.bind with ⟨snapshot, first, taken, ends⟩
  rcases taken.act with ⟨met, untilMet, snapped⟩
  rcases ends.bind with ⟨now, second, clock, ends⟩
  rcases ends.bind with ⟨started, third, asked, ends⟩
  rcases ends.bind with ⟨narrow, fourth, narrowDrawn, ends⟩
  rcases ends.bind with ⟨wide, fifth, wideDrawn, ends⟩
  rcases ends.bind with ⟨ended, sixth, askedAgain, ends⟩
  rcases ends.act with ⟨last, afterwards, stored⟩
  obtain rfl := clock.now
  have snapping := meanwhile_withChannel index (·.snapshot met.instant) met
  rw [snapped] at snapping
  have untilNarrow : Meanwhile met third := snapping.trans asked.ask.1
  have untilWide : Meanwhile met fourth := untilNarrow.trans (meanwhile_of_render narrowDrawn)
  have untilLast : Meanwhile met last :=
    untilWide.trans ((meanwhile_of_render wideDrawn).trans (askedAgain.ask.1.trans afterwards))
  have still : index < last.channels.size :=
    Nat.lt_of_lt_of_le loaded (untilMet.trans untilLast).2
  obtain rfl : ((met.channel index).snapshot met.instant).1 = snapshot := congrArg Prod.fst snapped
  refine ⟨met, last, now, ⟨narrow, wide⟩, max (ended - started) 1, fun viewport => ?_, untilMet,
    untilLast, channel_of_withChannel still stored⟩
  cases viewport with
  | narrow => exact ⟨third, fourth, (untilMet.trans untilNarrow).1, narrowDrawn⟩
  | wide => exact ⟨fourth, fifth, (untilMet.trans untilWide).1, wideDrawn⟩

/--
A frame has at most sixteen links, and its badges stand where these begin, numbered
in the order in which they are drawn.  Whatever is published of what was drawn: in
each viewport in which there is a frame, the channel then has this frame, and leads
from the label of each of its badges to the link; where there is none, it keeps the
frame that it had, with its links.  A refresh that reports that it published did so
with what it had drawn of its snapshot in both viewports.
-/
theorem badges_lead_to_links :
    (∀ {studio scene viewport rendering}, Renders studio scene viewport (some rendering) →
      ∃ face, studio.face = some face ∧ rendering.Anchored face studio.table viewport scene) ∧
    (∀ {channel after : Channel} {version renderMs : Nat}
        {drawn : PerViewport (Option Rendering)},
      channel.publish version drawn renderMs = (true, after) →
        (∃ viewport rendering, drawn.get viewport = some rendering) ∧
        ∀ viewport,
          (∀ {studio scene rendering}, drawn.get viewport = some rendering →
            Renders studio scene viewport (some rendering) →
              after.Answers viewport rendering) ∧
          (drawn.get viewport = none → after.display viewport = channel.display viewport)) ∧
    ∀ {index before after}, index < before.channels.size →
      EndsAmid Meanwhile (refresh index) before true after →
        ∃ (met last : Service) (now : Seconds) (drawn : PerViewport (Option Rendering))
          (renderMs : Nat),
          let snapshot := ((met.channel index).snapshot met.instant).1
          Meanwhile before met ∧ Meanwhile met last ∧
          (last.channel index).publish snapshot.version drawn renderMs =
            (true, after.channel index) ∧
          ∀ viewport,
            Renders before.studio (snapshot.scene viewport now) viewport (drawn.get viewport) ∧
            ∀ rendering, drawn.get viewport = some rendering →
              (after.channel index).Answers viewport rendering := by
  have answers {channel after : Channel} {version renderMs : Nat}
      {drawn : PerViewport (Option Rendering)} {studio scene viewport rendering}
      (published : channel.publish version drawn renderMs = (true, after))
      (stored : drawn.get viewport = some rendering)
      (renders : Renders studio scene viewport (some rendering)) :
      after.Answers viewport rendering := by
    rcases renders.anchored with ⟨face, -, anchored⟩
    exact Channel.answers_of_publish published stored anchored.few anchored.labels
  refine ⟨fun renders => renders.anchored, fun published => ?_, fun loaded refreshed => ?_⟩
  · refine ⟨Channel.exists_drawn_of_publish published, fun viewport => ⟨answers published, ?_⟩⟩
    intro undrawn
    rw [Channel.display_publish published viewport, undrawn]
  · rcases exists_publish loaded refreshed with
      ⟨met, last, now, drawn, renderMs, rendered, untilMet, untilLast, published⟩
    refine ⟨met, last, now, drawn, renderMs, untilMet, untilLast, published, fun viewport => ?_⟩
    exact ⟨rendered viewport, fun rendering stored =>
      answers published stored (stored ▸ rendered viewport)⟩

/-- A face with characters of one width that leave nothing on the canvas. -/
def evenFace : Face where
  advance _ := 10
  kern _ _ := 0
  measure text := 10 * Float32.ofNat text.length
  ink _ _ _ _ := .ok []

/-- A service with a font, and a channel whose last message is too long by a row with a link. -/
def overflowing : Service :=
  let log := [.written "ann" "http://old",
    .written "bob" "http://new\n2\n3\n4\n5\n6\n7\n8\n9\nhttp://cut"]
  { bare with
    studio := ⟨some evenFace, .empty, none, .webp, ⟨fun _ _ => some 1⟩⟩
    channels := #[{ Channel.shut with log }] }

/-- The service while the channel is drawn: the snapshot was taken. -/
def snapped : Service :=
  (withChannel 0 (·.snapshot overflowing.instant) overflowing).2

/-- What is drawn of the channel. -/
def overflow (viewport : Viewport) : Scene :=
  ((overflowing.channel 0).snapshot overflowing.instant).1.scene viewport 0

/-- The links of a frame that was drawn. -/
def linksOf : Except Operation.Fault (Option Rendering) → Option (List String)
  | .ok (some rendering) => some rendering.links
  | _ => none

theorem exists_of_linksOf {outcome : Except Operation.Fault (Option Rendering)}
    {links : List String} (drawn : linksOf outcome = some links) :
    ∃ rendering, outcome = .ok (some rendering) ∧ rendering.links = links := by
  unfold linksOf at drawn
  split at drawn
  · exact ⟨_, rfl, Option.some.inj drawn⟩
  · cases drawn

/-- What comes of drawing the channel in a viewport. -/
def drawing (viewport : Viewport) (service : Service) :
    Except Operation.Fault (Option Rendering) × Service :=
  Service.run (render (overflow viewport) viewport) service

/-- What drawing the channel leaves alone. -/
def easel (service : Service) : Studio × Array Channel :=
  (service.studio, service.channels)

theorem exists_ends_overflow {viewport : Viewport} {service : Service}
    (easels : service.easel = snapped.easel)
    (drawn : linksOf (drawing viewport service).1 = some ["http://new", "http://old"]) :
    ∃ rendering,
      Ends (render (overflow viewport) viewport) service (.ok (some rendering))
        (drawing viewport service).2 ∧
      Renders overflowing.studio (overflow viewport) viewport (some rendering) ∧
      rendering.links = ["http://new", "http://old"] ∧
      (drawing viewport service).2.easel = snapped.easel := by
  rcases exists_of_linksOf drawn with ⟨rendering, ran, links⟩
  have ends : Ends (render (overflow viewport) viewport) service (.ok (some rendering))
      (drawing viewport service).2 :=
    .of_run ran
  have faceless : Faceless easel := fun _ _ => rfl
  have studio : service.studio = overflowing.studio := congrArg Prod.fst easels
  exact ⟨rendering, ends, ⟨service, _, studio, ends.amid Meanwhile.refl⟩, links,
    (ends.keeps (keeps_render faceless _ _)).trans easels⟩

/-- What was drawn of the channel in both viewports is published. -/
theorem exists_publish_of_drawn (drawn : PerViewport Rendering) {last : Service}
    (easels : last.easel = snapped.easel) (renderMs : Nat) :
    ∃ after,
      withChannel 0 (·.publish 0 ⟨some drawn.narrow, some drawn.wide⟩ renderMs) last =
        (true, after) ∧
      (last.channel 0).publish 0 ⟨some drawn.narrow, some drawn.wide⟩ renderMs =
        (true, after.channel 0) := by
  have channels : last.channels = snapped.channels := congrArg Prod.snd easels
  have loaded : 0 < last.channels.size := by
    rw [channels]
    exact Nat.zero_lt_one
  have unpublished : (last.channel 0).publishedVersion = 0 := by
    rw [Service.channel, channels]
    rfl
  have stepped : withChannel 0 (·.publish 0 ⟨some drawn.narrow, some drawn.wide⟩ renderMs) last =
      (true, (withChannel 0
        (·.publish 0 ⟨some drawn.narrow, some drawn.wide⟩ renderMs) last).2) := by
    refine Prod.ext ?_ rfl
    show ((last.channel 0).publish 0 ⟨some drawn.narrow, some drawn.wide⟩ renderMs).1 = true
    rw [Channel.publish, unpublished]
    rfl
  exact ⟨_, stepped, channel_of_withChannel loaded stepped⟩

/-- The channel is refreshed, with a frame in each viewport. -/
theorem exists_refresh_overflowing :
    ∃ (drawn : PerViewport Rendering) (channel : Channel) (renderMs : Nat) (after : Service),
      Ends (refresh 0) overflowing (.ok true) after ∧
      channel.publish 0 ⟨some drawn.narrow, some drawn.wide⟩ renderMs =
        (true, after.channel 0) ∧
      ∀ viewport,
        Renders overflowing.studio (overflow viewport) viewport (some (drawn.get viewport)) ∧
        (drawn.get viewport).links = ["http://new", "http://old"] := by
  have narrowDrawn : linksOf (drawing .narrow snapped).1 = some ["http://new", "http://old"] := by
    decide +kernel
  have wideDrawn : linksOf (drawing .wide (drawing .narrow snapped).2).1 =
      some ["http://new", "http://old"] := by
    decide +kernel
  rcases exists_ends_overflow rfl narrowDrawn with
    ⟨narrow, narrowEnds, narrowRenders, narrowLinks, easels⟩
  rcases exists_ends_overflow easels wideDrawn with
    ⟨wide, wideEnds, wideRenders, wideLinks, easels⟩
  generalize (drawing .wide (drawing .narrow snapped).2).2 = last at wideEnds easels
  rcases exists_publish_of_drawn ⟨narrow, wide⟩ easels
    (max (last.instant - snapped.instant) 1) with ⟨after, stepped, published⟩
  refine ⟨⟨narrow, wide⟩, _, _, after, ?_, published, fun viewport => ?_⟩
  · refine ends_act_bind.mpr (ends_now_bind.mpr ⟨0, ?_⟩)
    refine ends_ask_bind.mpr (ends_bind.mpr ⟨_, _, narrowEnds, ?_⟩)
    refine ends_bind.mpr ⟨_, _, wideEnds, ends_ask_bind.mpr ?_⟩
    exact ends_act.mpr
      ⟨(congrArg Prod.fst stepped).symm, (congrArg Prod.snd stepped).symm⟩
  · cases viewport with
    | narrow => exact ⟨narrowRenders, narrowLinks⟩
    | wide => exact ⟨wideRenders, wideLinks⟩

/-- The number of a link that was cut goes to a link of an older message, in both viewports. -/
theorem badges_lead_to_links_after_cut :
    ∃ (drawn : PerViewport Rendering) (after : Service),
      0 < overflowing.channels.size ∧ EndsAmid Meanwhile (refresh 0) overflowing true after ∧
      ∀ viewport,
        Renders overflowing.studio (overflow viewport) viewport (some (drawn.get viewport)) ∧
        (drawn.get viewport).links = ["http://new", "http://old"] ∧
        (drawn.get viewport).frame.picture.sheet.badges.map Badge.label = ["0", "1"] ∧
        (after.channel 0).Answers viewport (drawn.get viewport) ∧
        (after.channel 0).link? viewport 1 = some "http://old" ∧
        (after.channel 0).link? viewport 2 = none := by
  rcases exists_refresh_overflowing with
    ⟨drawn, channel, renderMs, after, refreshed, published, rendered⟩
  refine ⟨drawn, after, Nat.zero_lt_one, refreshed.amid Meanwhile.refl, fun viewport => ?_⟩
  rcases rendered viewport with ⟨renders, links⟩
  rcases badges_lead_to_links.1 renders with ⟨face, -, anchored⟩
  have answers : (after.channel 0).Answers viewport (drawn.get viewport) :=
    ((badges_lead_to_links.2.1 published).2 viewport).1 (by cases viewport <;> rfl) renders
  have labels := anchored.labels
  rw [links] at labels
  refine ⟨renders, links, labels.trans (by decide), answers, ?_,
    answers.larger 2 (by rw [links]; decide)⟩
  rw [answers.link, links]
  rfl

end Service

end FrameChat
