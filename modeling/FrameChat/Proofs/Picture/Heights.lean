import FrameChat.Proofs.Picture.Lines

/-!
# Heights on a picture

Pictures are drawn with numbers of 32 bits.  The drawing of the messages is written here once
more with a check for every height that is computed on the way: the pen, the baselines, and the
edges of bands, badges and sprites.  The checks are for the few hundred rows of pixels around a
picture, and none of them ever fails, since the pen of a block is on the picture and a layout has
ten lines at most.

* `fitting?_of_height?`: what passes a check is far from the ends of 32 bits.
* `ofScene?_eq`: no check fails, and the picture is the same.
* `textLines_in_order`: the lines of a picture.
-/

namespace FrameChat

namespace Layout

/-- Overlays are over rows that there are. -/
theorem Shows.row_lt {linkBase : Nat} {layout : Layout} {spots : List Spot}
    (shown : layout.Shows linkBase spots) {overlay : Overlay}
    (member : overlay ∈ layout.overlays.toList) : overlay.row < layout.rows.size := by
  cases kind : overlay.isLink with
  | true =>
      have badge : overlay ∈ Layout.badges linkBase (numbered linkBase spots) :=
        shown.badges ▸ List.mem_filter.mpr ⟨member, kind⟩
      rcases row_of_mem_badges badge with ⟨spot, numbers, same⟩
      exact same ▸ shown.below spot (List.mem_of_mem_filter (List.mem_of_mem_take numbers))
  | false =>
      have sprite : overlay ∈ spots.filterMap Spot.sprite? :=
        shown.sprites ▸ List.mem_filter.mpr ⟨member, by rw [kind]; rfl⟩
      rcases List.mem_filterMap.mp sprite with ⟨spot, listed, same⟩
      rw [Spot.sprite?] at same
      split at same
      · cases same
      · cases same
        exact shown.below spot listed

end Layout

namespace Composition

/-- A height that is not far off a picture. -/
def height? (height : Int) : Option Int :=
  if -250 ≤ height ∧ height ≤ 950 then some height else none

theorem height?_eq {height : Int} (above : -250 ≤ height) (below : height ≤ 950) :
    height? height = some height :=
  if_pos ⟨above, below⟩

theorem near_of_height? {height checked : Int} (passed : height? height = some checked) :
    -250 ≤ height ∧ height ≤ 950 := by
  rw [height?] at passed
  split at passed
  case isTrue near => exact near
  case isFalse => cases passed

/-- Such a height is a number of 32 bits. -/
theorem fitting?_of_height? {height checked : Int} (passed : height? height = some checked) :
    fitting? height = some checked := by
  have near := near_of_height? passed
  rw [height?_eq near.1 near.2] at passed
  refine (if_pos ⟨?_, ?_⟩).trans passed
  · exact Int.le_trans (by decide) near.1
  · exact Int.le_trans near.2 (by decide)

/-! ## Drawing with checks -/

/-- Stack messages as `stack` does, with every height checked. -/
def stack? (face : Face) (table : Emoji.Table) (viewport : Viewport) (now : Seconds) :
    (messages : List (Message × Nat)) → (y : Int) → (linkBase : Nat) → Option (List Block)
  | [], _, _ => some []
  | (message, index) :: older, y, linkBase =>
      if message.kind.isPresence then do
        let next ← height? (y - messageGap)
        let rest ←
          (if next < 0 then some [] else stack? face table viewport now older next linkBase)
        return .presence y message.author (presenceTail message) :: rest
      else do
        let layout := Layout.ofText face table message.text viewport.width message.author linkBase
        let extent ← height? (layout.rowCount * lineHeight)
        let rise ← height? (extent - lineHeight)
        let top ← height? (y - rise)
        let header ← height? (top - lineHeight)
        let next ← height? (header - messageGap)
        let rest ←
          (if next < 0 then some []
          else stack? face table viewport now older next (linkBase + layout.links.size))
        return .written top (index % 2 = 0) layout message.author (stamp message.time now) :: rest

/-- The sheet of an overlay, with every height checked. -/
def overlaySheet? (face : Face) (hasAtlas : Bool) (top : Int) (overlay : Layout.Overlay) :
    Option Sheet := do
  let down ← height? (overlay.row * lineHeight)
  let baseline ← height? (top + down)
  let cellTop ← height? (baseline - lineHeight)
  let upper ← height? (cellTop + 4)
  let x := nearest overlay.x
  match overlay.kind with
  | .link index => do
      let lower ← height? (upper + badgeEdge)
      let labelled ← height? (cellTop + 17)
      return Sheet.ofFitting do
        let right ← fitting? (x + badgeEdge)
        let label := Text.Hex.ofNat index
        let labelPen := Float32.ofInt x + (Float32.ofInt badgeEdge - face.measure label) / 2
        return Sheet.one (.blend ⟨x, upper, right, lower⟩ Color.badge) ++
          (Sheet.ofText face labelPen labelled label Color.white).1
  | .emoji cell => do
      let edge : Int := Emoji.cellEdge
      let tileUpper ← height? (upper + 2)
      let spriteLower ← height? (upper + edge)
      let tileLower ← height? (spriteLower - 2)
      return Sheet.ofFitting do
        let left ← fitting? (x + 3)
        if hasAtlas then
          return Sheet.one (.sprite cell left upper)
        else
          let right ← fitting? (left + edge)
          return Sheet.one (.fill ⟨left + 2, tileUpper, right - 2, tileLower⟩ Color.wheat)

/-- The baseline of a row of a layout, checked. -/
def baseline? (top : Int) (row : Nat) : Option Int := do
  let down ← height? (row * lineHeight)
  height? (top + down)

/-- The sheet of the marker of a layout, with every height checked. -/
def markerSheet? (face : Face) (viewport : Viewport) (layout : Layout) (top : Int) :
    Option Sheet :=
  match layout.marker with
  | none => some Sheet.empty
  | some marker => do
      let baseline ← baseline? top layout.rows.size
      let pen := Float32.ofNat viewport.width - face.measure marker - Layout.contentLeft
      return (Sheet.ofText face pen baseline marker Color.grayText).1

/-- The sheet of the rows, the marker and the overlays of a message, with every height checked. -/
def bodySheet? (face : Face) (hasAtlas : Bool) (viewport : Viewport) (layout : Layout)
    (top : Int) : Option Sheet := do
  let rows ← layout.rows.toList.zipIdx.mapM fun (row, position) => do
    let baseline ← baseline? top position
    return Sheet.concat (row.glyphs.toList.map (Sheet.ofGlyph face baseline Color.black))
  let marker ← markerSheet? face viewport layout top
  let overlays ← layout.overlays.toList.mapM (overlaySheet? face hasAtlas top)
  return Sheet.concat rows ++ marker ++ Sheet.concat overlays

/-- The band behind a message, with every height checked. -/
def band? (viewport : Viewport) (banded : Bool) (layout : Layout) (top : Int) : Option Sheet :=
  if banded then do
    let upper ← height? (top - lineHeight * 2)
    let extent ← height? (layout.rowCount * lineHeight)
    let below ← height? (top + extent)
    let lower ← height? (below - (lineHeight * 5 / 8 : Nat))
    return Sheet.one (.fill ⟨0, upper, viewport.width, lower⟩ Color.grayBand)
  else some Sheet.empty

/-- The sheet of a block, with every height checked. -/
def Block.sheet? (face : Face) (hasAtlas : Bool) (viewport : Viewport) : Block → Option Sheet
  | .presence baseline author tail =>
      some ((Block.presence baseline author tail).sheet face hasAtlas viewport)
  | .written top banded layout author stamp => do
      let band ← band? viewport banded layout top
      let body ← bodySheet? face hasAtlas viewport layout top
      let header ← height? (top - lineHeight)
      let (name, pen) := Sheet.ofText face (Float32.ofNat margin) header author Color.blue
      let time := (Sheet.ofText face (pen + Float32.ofNat (margin * 2)) header stamp Color.black).1
      return band ++ body ++ name ++ time

/-! ## No check fails -/

/-- A layout whose last line is on the picture. -/
structure Seated (layout : Layout) (top : Int) : Prop where
  few : layout.rowCount ≤ Layout.maxRows
  begun : 0 ≤ top + (layout.rowCount * lineHeight - lineHeight : Int)
  low : top + (layout.rowCount * lineHeight - lineHeight : Int) ≤ lowest
  /-- overlays are over rows that there are -/
  overlaid : ∀ overlay ∈ layout.overlays.toList, overlay.row < layout.rows.size

theorem mapM_eq_some {α β : Type} {draw : α → Option β} {drawn : α → β} {items : List α}
    (each : ∀ item ∈ items, draw item = some (drawn item)) :
    items.mapM draw = some (items.map drawn) := by
  induction items with
  | nil => rfl
  | cons item rest ih =>
      rw [List.mapM_cons, each item (by simp),
        ih fun other member => each other (List.mem_cons_of_mem _ member)]
      rfl

section Checks

variable {face : Face} {table : Emoji.Table} {hasAtlas : Bool} {viewport : Viewport}
  {layout : Layout} {top : Int}

theorem size_rows_le (layout : Layout) : layout.rows.size ≤ layout.rowCount :=
  Nat.le_add_right _ _

/-- The baselines of a layout are on the picture or not far above it. -/
theorem Seated.baseline (seated : Seated layout top) {row : Nat} (inside : row < layout.rowCount) :
    row < Layout.maxRows ∧ -198 ≤ top + row * lineHeight ∧ top + row * lineHeight ≤ 919 := by
  rcases seated with ⟨few, begun, low, -⟩
  have bottom : lowest = 919 := rfl
  simp only [lineHeight, Layout.maxRows] at *
  omega

theorem Seated.baseline?_eq (seated : Seated layout top) {row : Nat}
    (inside : row < layout.rowCount) : baseline? top row = some (top + row * lineHeight) := by
  rcases seated.baseline inside with ⟨few, above, below⟩
  simp only [lineHeight, Layout.maxRows] at *
  simp (disch := omega) only [baseline?, lineHeight, height?_eq, Option.bind_eq_bind,
    Option.bind_some]

theorem Seated.overlaySheet?_eq (seated : Seated layout top) {overlay : Layout.Overlay}
    (member : overlay ∈ layout.overlays.toList) :
    overlaySheet? face hasAtlas top overlay = some (overlaySheet face hasAtlas top overlay) := by
  have inside := Nat.lt_of_lt_of_le (seated.overlaid overlay member) (size_rows_le layout)
  rcases seated.baseline inside with ⟨few, above, below⟩
  rcases overlay with ⟨kind, pen, row⟩
  simp only [lineHeight, Layout.maxRows] at *
  cases kind with
  | link index =>
      simp (disch := omega) only [overlaySheet?, lineHeight, badgeEdge, height?_eq,
        Option.bind_eq_bind, Option.bind_some]
      rfl
  | emoji cell =>
      simp (disch := omega) only [overlaySheet?, lineHeight, Emoji.cellEdge, height?_eq,
        Option.bind_eq_bind, Option.bind_some]
      rfl

theorem Seated.bodySheet?_eq (seated : Seated layout top) :
    bodySheet? face hasAtlas viewport layout top =
      some (bodySheet face hasAtlas viewport layout top) := by
  have rows : (layout.rows.toList.zipIdx.mapM fun (row, position) => do
      let baseline ← baseline? top position
      return Sheet.concat (row.glyphs.toList.map (Sheet.ofGlyph face baseline Color.black))) =
        some (layout.rows.toList.zipIdx.map fun (row, position) =>
          Sheet.concat (row.glyphs.toList.map
            (Sheet.ofGlyph face (top + position * lineHeight) Color.black))) := by
    refine mapM_eq_some fun (row, position) listed => ?_
    have inside : position < layout.rowCount := by
      refine Nat.lt_of_lt_of_le ?_ (size_rows_le layout)
      simpa using List.snd_lt_of_mem_zipIdx listed
    simp only [seated.baseline?_eq inside]
    rfl
  have overlays : layout.overlays.toList.mapM (overlaySheet? face hasAtlas top) =
      some (layout.overlays.toList.map (overlaySheet face hasAtlas top)) :=
    mapM_eq_some fun overlay member => seated.overlaySheet?_eq member
  have marker : markerSheet? face viewport layout top =
      some (match layout.marker with
        | none => Sheet.empty
        | some marker =>
            let pen := Float32.ofNat viewport.width - face.measure marker - Layout.contentLeft
            (Sheet.ofText face pen (top + layout.rows.size * lineHeight) marker
              Color.grayText).1) := by
    rw [markerSheet?]
    cases marked : layout.marker with
    | none => rfl
    | some marker =>
        have inside : layout.rows.size < layout.rowCount := by simp [Layout.rowCount, marked]
        simp only [seated.baseline?_eq inside]
        rfl
  rw [bodySheet?, rows, marker, overlays]
  rfl

/-- A block whose layout is seated. -/
def Block.Seated : Block → Prop
  | .presence .. => True
  | .written top _ layout _ _ => Composition.Seated layout top

theorem Block.Seated.sheet?_eq {block : Block} (seated : block.Seated) :
    block.sheet? face hasAtlas viewport = some (block.sheet face hasAtlas viewport) := by
  cases block with
  | presence baseline author tail => rfl
  | written top banded layout author stamp =>
      have few := seated.few
      have begun := seated.begun
      have low := seated.low
      have bottom : lowest = 919 := rfl
      simp only [lineHeight, Layout.maxRows] at few begun low
      rw [sheet?, Composition.Seated.bodySheet?_eq seated]
      cases banded <;>
        simp (disch := omega) only [band?, lineHeight, height?_eq, Option.bind_eq_bind,
          Option.bind_some, if_true, Bool.false_eq_true, if_false] <;>
        rfl

/-- The block of a message is seated if its pen is on the picture. -/
theorem seated_blockOf (entry : Message × Nat) {now : Seconds} {y : Int} (begun : 0 ≤ y)
    (low : y ≤ lowest) (linkBase : Nat) :
    (blockOf face table viewport now entry y linkBase).Seated := by
  rw [blockOf]
  split
  case isTrue => exact trivial
  case isFalse =>
    generalize set :
      Layout.ofText face table entry.1.text viewport.width entry.1.author linkBase = layout
    have pen : topOf y layout.rowCount + (layout.rowCount * lineHeight - lineHeight : Int) = y := by
      rw [topOf, Int.sub_add_cancel]
    exact {
      few := set ▸ Layout.rowCount_ofText_le face table _ _ _ _
      begun := pen.symm ▸ begun
      low := pen.symm ▸ low
      overlaid := fun overlay member => by
        subst set
        exact (Layout.shows_ofText face table _ _ _ _).row_lt member }

theorem stack?_eq (messages : List (Message × Nat)) {now : Seconds} {y : Int} (begun : 0 ≤ y)
    (low : y ≤ lowest) (linkBase : Nat) :
    stack? face table viewport now messages y linkBase =
      some (stack face table viewport now messages y linkBase) := by
  induction messages generalizing y linkBase with
  | nil => rfl
  | cons entry older ih =>
      rcases entry with ⟨message, position⟩
      -- A stack that is left off needs no check, so that both ends are one case.
      have rest (next : Int) (base : Nat) (higher : next ≤ y) :
          (if next < 0 then some [] else stack? face table viewport now older next base) =
            some (if next < 0 then [] else stack face table viewport now older next base) := by
        split
        case isTrue => rfl
        case isFalse inside => exact ih (Int.not_lt.mp inside) (Int.le_trans higher low) base
      have bottom : lowest = 919 := rfl
      rw [stack?, stack]
      split
      case isTrue =>
        have next : height? (y - messageGap) = some (y - messageGap) := by
          rw [messageGap, lineHeight]
          exact height?_eq (by omega) (by omega)
        have higher : y - messageGap ≤ y := by
          rw [messageGap, lineHeight]
          omega
        simp only [next, Option.bind_eq_bind, Option.bind_some, rest _ linkBase higher]
        rfl
      case isFalse =>
        have few := Layout.rowCount_ofText_le face table message.text viewport.width message.author
          linkBase
        generalize Layout.ofText face table message.text viewport.width message.author linkBase =
          layout at few
        rw [Layout.maxRows] at few
        have higher : topOf y layout.rowCount - lineHeight - messageGap ≤ y := by
          rw [topOf, messageGap, lineHeight]
          omega
        simp only [topOf, lineHeight, messageGap] at higher rest ⊢
        simp (disch := omega) only [height?_eq, Option.bind_eq_bind, Option.bind_some]
        rw [rest _ _ higher]
        rfl

end Checks

end Composition

namespace Picture

open FrameChat.Composition

/-- The picture of a scene, with every height of its messages checked. -/
def ofScene? (face : Face) (table : Emoji.Table) (hasAtlas : Bool) (scene : Scene)
    (viewport : Viewport) : Option Picture := do
  let blocks ← stack? face table viewport scene.now scene.messages.zipIdx.reverse lowest 0
  let sheets ← blocks.mapM (Block.sheet? face hasAtlas viewport)
  return ⟨viewport, Sheet.concat sheets ++ StatusBar.sheet face viewport scene, linksOf blocks⟩

/-- The picture of a scene is drawn without any height far off the picture. -/
theorem ofScene?_eq (face : Face) (table : Emoji.Table) (hasAtlas : Bool) (scene : Scene)
    (viewport : Viewport) :
    ofScene? face table hasAtlas scene viewport =
      some (ofScene (some face) table hasAtlas scene viewport) := by
  have onPicture : 0 ≤ lowest := by decide
  have stacked : stack? face table viewport scene.now scene.messages.zipIdx.reverse lowest 0 =
      some (blocks face table viewport scene) :=
    stack?_eq scene.messages.zipIdx.reverse onPicture (Int.le_refl lowest) 0
  have sheets : (blocks face table viewport scene).mapM (Block.sheet? face hasAtlas viewport) =
      some ((blocks face table viewport scene).map (Block.sheet face hasAtlas viewport)) := by
    refine mapM_eq_some fun block member => ?_
    rcases (stacked_blocks scene).exists_pen onPicture block member with
      ⟨entry, pen, linkBase, begun, low, rfl⟩
    exact (seated_blockOf entry begun low linkBase).sheet?_eq
  rw [ofScene?, stacked, Option.bind_eq_bind, Option.bind_some, sheets]
  rfl

/--
The lines of a picture stand at least the distance of baselines apart and above the status bar,
those of an older message above those of a newer one.  They are what is drawn of the messages,
newest ones first, that the picture shows, and no height that is computed on the way is far off
the picture.
-/
theorem textLines_in_order (face : Face) (table : Emoji.Table) (hasAtlas : Bool) (scene : Scene)
    (viewport : Viewport) :
    let shown := blocks face table viewport scene
    let picture := ofScene (some face) table hasAtlas scene viewport
    List.Forall₂ (Block.Draws face table viewport scene.now) shown
        (scene.messages.reverse.take shown.length) ∧
      (textLines shown).Pairwise TextLine.Above ∧
      (shown.Pairwise fun newer older =>
        ∀ upper ∈ older.textLines, ∀ lower ∈ newer.textLines, upper.Above lower) ∧
      (∀ line ∈ textLines shown, line.baseline ≤ 919 ∧ line.baseline < StatusBar.top) ∧
      (∀ line ∈ textLines shown, ∀ glyph ∈ (line.sheet face viewport).glyphs,
        glyph.baseline = line.baseline ∧
          (picture.sheet.faulted = false → glyph ∈ picture.sheet.glyphs)) ∧
      (∀ glyph ∈ picture.sheet.glyphs, glyph.color ≠ Color.white →
        (∃ line ∈ textLines shown, glyph ∈ (line.sheet face viewport).glyphs) ∨
          glyph ∈ (StatusBar.sheet face viewport scene).glyphs) ∧
      ofScene? face table hasAtlas scene viewport = some picture ∧
      ∀ height checked, height? height = some checked →
        -250 ≤ height ∧ height ≤ 950 ∧ fitting? height = some checked := by
  intro shown picture
  have stacked : Stacked face table viewport scene.now scene.messages.reverse lowest shown :=
    stacked_blocks scene
  refine ⟨stacked.draws, stacked.apart, stacked.older_above, fun line listed => ?_,
    fun line listed glyph member => ?_, fun glyph member dark => ?_,
    ofScene?_eq face table hasAtlas scene viewport, fun height checked passed => ?_⟩
  · have low := stacked.baseline_le line listed
    exact ⟨low, Int.lt_of_le_of_lt low (by decide)⟩
  · exact ⟨baseline_of_mem_sheet member, fun sound => mem_glyphs_of_textLine sound listed member⟩
  · exact exists_textLine_of_mem_glyphs member dark
  · have near := near_of_height? passed
    exact ⟨near.1, near.2, fitting?_of_height? passed⟩

end Picture

end FrameChat
