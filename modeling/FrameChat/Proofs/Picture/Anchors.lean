import FrameChat.Proofs.Picture.Badges

/-!
# Where badges belong

A link begins at a spot of a message, in a row that the layout of the message
keeps.  The `anchors` of a scene are the first sixteen of these places, newest
message first, and in the order of the text within a message.

Every message numbers its links from where the newer ones stopped, and a cut
gives numbers back.  An induction on the stack shows that the links of a picture
are those of its anchors (`links_ofScene`), and that its badges are those of its
anchors, numbered from zero (`badges_ofScene`).
-/

namespace FrameChat.Composition

open Layout (Spot)

/-- Where a link begins: a spot of a message that stands somewhere in the stack. -/
structure Anchor where
  /-- position of the message in the log -/
  position : Nat
  /-- baseline of the first row of the message -/
  top : Int
  spot : Spot

namespace Anchor

/-- The link that begins at an anchor. -/
def link (anchor : Anchor) : String :=
  anchor.spot.link

/-- The badge with a number at an anchor. -/
def badge (anchor : Anchor) (index : Nat) : Badge :=
  badgeAt anchor.top anchor.spot.pen anchor.spot.row index

/-- Newer messages come first, and a message is read from its beginning. -/
def Precedes (earlier later : Anchor) : Prop :=
  later.position < earlier.position ∨
    earlier.position = later.position ∧ Layout.Before earlier.spot.place later.spot.place

end Anchor

/-- The badges of anchors that are numbered from `linkBase` on. -/
def badgesFrom (linkBase : Nat) (anchors : List Anchor) : List Badge :=
  (anchors.zipIdx linkBase).map fun entry => entry.1.badge entry.2

section Stack

variable (face : Face) (table : Emoji.Table) (viewport : Viewport)

/-- The anchors of a message, given with its position in the log and its block. -/
def anchorsIn (entry : (Message × Nat) × Block) : List Anchor :=
  match entry.2 with
  | .presence .. => []
  | .written top _ layout _ _ =>
      ((layout.kept (Layout.spots face table entry.1.1.text viewport.width)).filter
        Spot.beginsLink).map (Anchor.mk entry.1.2 top)

/-- The anchors of a stack, however many there are. -/
def allAnchors (messages : List (Message × Nat)) (blocks : List Block) : List Anchor :=
  (messages.zip blocks).flatMap (anchorsIn face table viewport)

/-- The anchors of a scene. -/
def anchors (scene : Scene) : List Anchor :=
  (allAnchors face table viewport scene.messages.zipIdx.reverse
    (blocks face table viewport scene)).take Layout.maxLinks

variable {face table viewport}

theorem badgesFrom_append (linkBase : Nat) (first second : List Anchor) :
    badgesFrom linkBase (first ++ second) =
      badgesFrom linkBase first ++ badgesFrom (linkBase + first.length) second := by
  rw [badgesFrom, List.zipIdx_append, List.map_append]
  rfl

theorem map_label_badgesFrom (linkBase : Nat) (anchors : List Anchor) :
    (badgesFrom linkBase anchors).map Badge.label =
      (List.range' linkBase anchors.length).map Text.Hex.ofNat := by
  rw [badgesFrom, List.map_map, ← List.zipIdx_map_snd, List.map_map]
  rfl

theorem allAnchors_nil (messages : List (Message × Nat)) :
    allAnchors face table viewport messages [] = [] := by
  rw [allAnchors, List.zip_nil_right]
  rfl

theorem allAnchors_cons (entry : Message × Nat) (older : List (Message × Nat)) (block : Block)
    (blocks : List Block) :
    allAnchors face table viewport (entry :: older) (block :: blocks) =
      anchorsIn face table viewport (entry, block) ++ allAnchors face table viewport older blocks :=
  rfl

theorem flatMap_badgesOf_eq (top : Int) (overlays : List Layout.Overlay) :
    overlays.flatMap (badgesOf top) =
      (overlays.filter Layout.Overlay.isLink).flatMap (badgesOf top) := by
  induction overlays with
  | nil => rfl
  | cons overlay rest ih =>
      rcases overlay with ⟨kind, pen, row⟩
      cases kind with
      | link index => exact congrArg (badgesOf top ⟨.link index, pen, row⟩ ++ ·) ih
      | emoji cell => exact ih

/-- What a stack bears when `linkBase` links are numbered before it. -/
structure Numbers (linkBase : Nat) (blocks : List Block) (anchors : List Anchor) : Prop where
  links : linksOf blocks = anchors.map Anchor.link
  badges : blocks.flatMap Block.badges = badgesFrom linkBase anchors
  few : ∀ block ∈ blocks, block.Numbered

namespace Numbers

theorem nil (linkBase : Nat) : Numbers linkBase [] [] :=
  ⟨rfl, rfl, by simp⟩

theorem append {linkBase : Nat} {first second : List Block} {firstAnchors secondAnchors : List Anchor}
    (head : Numbers linkBase first firstAnchors)
    (tail : Numbers (linkBase + firstAnchors.length) second secondAnchors) :
    Numbers linkBase (first ++ second) (firstAnchors ++ secondAnchors) where
  links := by
    rw [List.map_append, ← head.links, ← tail.links]
    exact List.flatMap_append
  badges := by
    rw [List.flatMap_append, head.badges, tail.badges, badgesFrom_append]
  few block member := by
    rcases List.mem_append.mp member with inFirst | inSecond
    · exact head.few block inFirst
    · exact tail.few block inSecond

theorem presence (linkBase : Nat) (baseline : Int) (author tail : String) :
    Numbers linkBase [.presence baseline author tail] [] :=
  ⟨rfl, rfl, by simp [Block.Numbered]⟩

theorem flatMap_badges (linkBase : Nat) (position : Nat) (top : Int) (spots : List Spot) :
    (Layout.badges linkBase spots).flatMap (badgesOf top) =
      badgesFrom linkBase (spots.map (Anchor.mk position top)) := by
  induction spots generalizing linkBase with
  | nil => rfl
  | cons spot rest ih => exact congrArg (badgeAt top spot.pen spot.row linkBase :: ·) (ih _)

/-- A written message numbers the links that begin in the rows of its layout. -/
theorem written {linkBase : Nat} {layout : Layout} {spots : List Spot}
    (shown : layout.Shows linkBase spots) (position : Nat) (top : Int) (banded : Bool)
    (author stamp : String) :
    Numbers linkBase [.written top banded layout author stamp]
      (((spots.filter Spot.beginsLink).map (Anchor.mk position top)).take
        (Layout.maxLinks - linkBase)) where
  links := by
    rw [← List.map_take, List.map_map]
    exact (List.append_nil _).trans shown.links
  badges := by
    rw [← List.map_take]
    show layout.overlays.toList.flatMap (badgesOf top) ++ [] = _
    rw [List.append_nil, flatMap_badgesOf_eq, shown.badges]
    exact flatMap_badges linkBase position top _
  few block member := by
    rw [List.mem_singleton.mp member]
    intro overlay listed index kind
    have badge : overlay ∈ Layout.badges linkBase (Layout.numbered linkBase spots) := by
      rw [← shown.badges]
      exact List.mem_filter.mpr ⟨listed, by rw [Layout.Overlay.isLink, kind]⟩
    rcases List.mem_map.mp badge with ⟨⟨spot, number⟩, entry, rfl⟩
    cases kind
    have bounds := List.mem_zipIdx entry
    have short : (Layout.numbered linkBase spots).length ≤ Layout.maxLinks - linkBase :=
      List.length_take_le _ _
    omega

/-- Older messages go on with the numbers that a written message leaves. -/
theorem written_cons {linkBase : Nat} {layout : Layout} {message : Message}
    (shown : layout.Shows linkBase
      (layout.kept (Layout.spots face table message.text viewport.width)))
    (position : Nat) (top : Int) (banded : Bool) (author stamp : String)
    {older : List (Message × Nat)} {blocks : List Block}
    (tail : Numbers (linkBase + layout.links.size) blocks
      ((allAnchors face table viewport older blocks).take
        (Layout.maxLinks - (linkBase + layout.links.size)))) :
    Numbers linkBase (.written top banded layout author stamp :: blocks)
      ((allAnchors face table viewport ((message, position) :: older)
        (.written top banded layout author stamp :: blocks)).take
          (Layout.maxLinks - linkBase)) := by
  have head := written shown position top banded author stamp
  have count : layout.links.size = min (Layout.maxLinks - linkBase)
      ((layout.kept (Layout.spots face table message.text viewport.width)).filter
        Spot.beginsLink).length := by
    rw [← Array.length_toList, shown.links, List.length_map, Layout.numbered, List.length_take]
  rw [allAnchors_cons, List.take_append]
  refine head.append ?_
  rw [List.length_take, List.length_map, anchorsIn, List.length_map, ← count]
  rw [show Layout.maxLinks - linkBase - ((layout.kept (Layout.spots face table message.text
    viewport.width)).filter Spot.beginsLink).length =
      Layout.maxLinks - (linkBase + layout.links.size) by omega]
  exact tail

end Numbers

theorem numbers_stack (now : Seconds) (messages : List (Message × Nat)) (y : Int)
    (linkBase : Nat) :
    Numbers linkBase (stack face table viewport now messages y linkBase)
      ((allAnchors face table viewport messages
        (stack face table viewport now messages y linkBase)).take (Layout.maxLinks - linkBase)) := by
  induction messages generalizing y linkBase with
  | nil =>
      rw [stack, allAnchors_nil, List.take_nil]
      exact Numbers.nil linkBase
  | cons entry older ih =>
      rcases entry with ⟨message, position⟩
      -- A stack that is left off bears nothing, so that both ends are one case.
      have rest (next : Int) (base : Nat) :
          let blocks := if next < 0 then [] else stack face table viewport now older next base
          Numbers base blocks
            ((allAnchors face table viewport older blocks).take (Layout.maxLinks - base)) := by
        dsimp only
        split
        · rw [allAnchors_nil, List.take_nil]
          exact Numbers.nil base
        · exact ih next base
      rw [stack]
      split
      case isTrue =>
        exact (Numbers.presence linkBase y message.author (presenceTail message)).append
          (rest (y - messageGap) linkBase)
      case isFalse =>
        generalize drawn :
          Layout.ofText face table message.text viewport.width message.author linkBase = layout
        have shown : layout.Shows linkBase (layout.kept (Layout.spots face table message.text
            viewport.width)) := drawn ▸ Layout.shows_ofText face table message.text viewport.width
          message.author linkBase
        exact Numbers.written_cons shown position _ _ _ _ (rest _ _)

/-! ## Where anchors are -/

/-- The blocks of a stack are those of its messages, one after the other. -/
theorem block_of_mem_zip {now : Seconds} {messages : List (Message × Nat)} {y : Int}
    {linkBase : Nat} {entry : Message × Nat} {top : Int} {banded : Bool} {layout : Layout}
    {author stamped : String}
    (member : (entry, Block.written top banded layout author stamped) ∈
      messages.zip (stack face table viewport now messages y linkBase)) :
    author = entry.1.author ∧ ∃ base,
      layout = Layout.ofText face table entry.1.text viewport.width entry.1.author base := by
  induction messages generalizing y linkBase with
  | nil => cases member
  | cons first older ih =>
      rcases first with ⟨message, position⟩
      have rest {next : Int} {base : Nat}
          (later : (entry, Block.written top banded layout author stamped) ∈ older.zip
            (if next < 0 then [] else stack face table viewport now older next base)) :
          author = entry.1.author ∧ ∃ base,
            layout = Layout.ofText face table entry.1.text viewport.width entry.1.author base := by
        split at later
        · rw [List.zip_nil_right] at later
          cases later
        · exact ih later
      rw [stack] at member
      split at member
      case isTrue =>
        rcases List.mem_cons.mp member with same | later
        · cases same
        · exact rest later
      case isFalse =>
        rcases List.mem_cons.mp member with same | later
        · cases same
          exact ⟨rfl, linkBase, rfl⟩
        · exact rest later

/-- An anchor belongs to a message of the log and to the layout that is drawn of it. -/
structure Anchor.Stands (face : Face) (table : Emoji.Table) (viewport : Viewport) (scene : Scene)
    (anchor : Anchor) (message : Message) (layout : Layout) : Prop where
  logged : scene.messages[anchor.position]? = some message
  drawn : ∃ banded stamp,
    Block.written anchor.top banded layout message.author stamp ∈
      blocks face table viewport scene
  /-- the rows show the tokens of the message at their spots, up to a cut -/
  laidOut : ∃ linkBase,
    layout = Layout.ofText face table message.text viewport.width message.author linkBase ∧
      layout.Shows linkBase (layout.kept (Layout.spots face table message.text viewport.width))
  placed : anchor.spot ∈ Layout.spots face table message.text viewport.width
  /-- the row is one that a cut keeps -/
  kept : anchor.spot.row < layout.rows.size
  /-- the token at the spot is set at the row and the pen of the spot -/
  has : layout.Has anchor.spot
  /-- the link begins at the line and the offset of the spot -/
  begins : ∃ line link,
    (Layout.sourceLines (Layout.expandTabs message.text.toList))[anchor.spot.line]? = some line ∧
      anchor.spot.token.Heads table (line.drop anchor.spot.offset) ∧
      Layout.linkAt (line.drop anchor.spot.offset) = some link ∧
      anchor.link = String.ofList link

theorem exists_stands {scene : Scene} {anchor : Anchor}
    (member : anchor ∈ anchors face table viewport scene) :
    ∃ message layout, anchor.Stands face table viewport scene message layout := by
  rcases List.mem_flatMap.mp (List.mem_of_mem_take member) with
    ⟨⟨⟨message, position⟩, block⟩, zipped, inBlock⟩
  cases block with
  | presence => cases inBlock
  | written top banded layout author stamp =>
      rcases List.mem_map.mp inBlock with ⟨spot, listed, rfl⟩
      rcases List.mem_filter.mp listed with ⟨kept, beginsLink⟩
      rcases List.mem_filter.mp kept with ⟨placed, inside⟩
      rcases List.of_mem_zip zipped with ⟨logged, drawn⟩
      rcases block_of_mem_zip zipped with ⟨rfl, base, rfl⟩
      rcases Layout.heads_of_mem_spots placed with ⟨line, found, heads⟩
      rcases Option.isSome_iff_exists.mp beginsLink with ⟨link, isLink⟩
      have shown := Layout.shows_ofText face table message.text viewport.width message.author base
      have begun : Layout.linkAt (line.drop spot.offset) = some link := by
        rcases heads with ⟨char, rest, -, -, same, -⟩
        rw [← same, isLink]
      refine ⟨message, _, List.mem_zipIdx_iff_getElem?.mp (List.mem_reverse.mp logged),
        ⟨banded, stamp, drawn⟩, ⟨base, rfl, shown⟩, placed, by simpa using inside,
        shown.has kept, line, link, found, heads, begun, ?_⟩
      rw [Anchor.link, Spot.link, isLink, Option.getD_some]

theorem anchorsIn_ordered (entry : (Message × Nat) × Block) :
    (anchorsIn face table viewport entry).Pairwise Anchor.Precedes := by
  rcases entry with ⟨⟨message, position⟩, block⟩
  cases block with
  | presence => exact .nil
  | written top banded layout author stamp =>
      refine List.pairwise_map.mpr (List.Pairwise.filter _ (List.Pairwise.filter _ ?_))
      exact (Layout.spots_ordered face table message.text viewport.width).imp fun before =>
        .inr ⟨rfl, before⟩

theorem position_of_mem_anchorsIn {entry : (Message × Nat) × Block} {anchor : Anchor}
    (member : anchor ∈ anchorsIn face table viewport entry) : anchor.position = entry.1.2 := by
  rcases entry with ⟨⟨message, position⟩, block⟩
  cases block with
  | presence => cases member
  | written top banded layout author stamp =>
      rcases List.mem_map.mp member with ⟨spot, -, rfl⟩
      rfl

theorem map_fst_zip_sublist {α β : Type} (first : List α) (second : List β) :
    ((first.zip second).map Prod.fst).Sublist first := by
  induction first generalizing second with
  | nil => exact .slnil
  | cons item rest ih =>
      cases second with
      | nil => exact List.nil_sublist _
      | cons other others => exact (ih others).cons_cons item

/-- Anchors are listed newest message first, and in the order of the text within a message. -/
theorem anchors_ordered (face : Face) (table : Emoji.Table) (viewport : Viewport) (scene : Scene) :
    (anchors face table viewport scene).Pairwise Anchor.Precedes := by
  refine List.Pairwise.sublist (List.take_sublist _ _)
    (List.pairwise_flatMap.mpr ⟨fun entry _ => anchorsIn_ordered entry, ?_⟩)
  have falling : scene.messages.zipIdx.reverse.Pairwise fun newer older => older.2 < newer.2 := by
    rw [List.pairwise_reverse, ← List.pairwise_map, List.zipIdx_map_snd]
    exact List.pairwise_lt_range'
  have zipped : (scene.messages.zipIdx.reverse.zip (blocks face table viewport scene)).Pairwise
      fun newer older => older.1.2 < newer.1.2 :=
    List.pairwise_map.mp (falling.sublist (map_fst_zip_sublist _ _))
  refine zipped.imp fun below first firstMember second secondMember => .inl ?_
  rwa [position_of_mem_anchorsIn firstMember, position_of_mem_anchorsIn secondMember]

end Stack

end FrameChat.Composition

namespace FrameChat.Picture

open FrameChat.Composition

variable {face : Face} {table : Emoji.Table} {hasAtlas : Bool} {scene : Scene} {viewport : Viewport}

theorem links_ofScene :
    (ofScene (some face) table hasAtlas scene viewport).links =
      (anchors face table viewport scene).map Anchor.link :=
  (numbers_stack scene.now scene.messages.zipIdx.reverse lowest 0).links

/-- The badges of a picture that is drawn to its end are those of its anchors, in order. -/
theorem badges_ofScene
    (sound : (ofScene (some face) table hasAtlas scene viewport).sheet.faulted = false) :
    (ofScene (some face) table hasAtlas scene viewport).sheet.badges =
      badgesFrom 0 (anchors face table viewport scene) := by
  have numbers := @numbers_stack face table viewport scene.now scene.messages.zipIdx.reverse lowest 0
  have sounds := (Sheet.sound_append_iff _ _).mp sound
  have bears := Sheet.bears_concat sounds.1 fun block member drawn =>
    bears_block drawn (numbers.few block member)
  exact ((bears.before_plain (StatusBar.plain_sheet face viewport scene) sounds.1).badges_eq).trans
    numbers.badges

end FrameChat.Picture
