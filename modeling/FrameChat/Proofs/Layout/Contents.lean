import FrameChat.Proofs.Layout.Spots

/-!
# What a layout shows

The rows and overlays of a layout show the tokens of its text, each at its spot,
and badges with the numbers of the links that begin there.  `Records` says so of
a setting to which tokens are added one after the other, and `Shows` of a layout.

A layout that is cut shows the spots of its first rows.  Since the rows of spots
only grow, the links that begin there are the first ones, so that they keep their
numbers and the numbers of the others become free (`shows_ofText`).
-/

namespace FrameChat.Layout

/-- The character that stands at a spot, with its pen. -/
def Spot.glyph? (spot : Spot) : Option Face.PlacedGlyph :=
  match spot.token.item with
  | .glyph char => some ⟨char, spot.pen⟩
  | .emoji _ => none

/-- The overlay of an emoji that stands at a spot. -/
def Spot.sprite? (spot : Spot) : Option Overlay :=
  match spot.token.item with
  | .glyph _ => none
  | .emoji cell => some ⟨.emoji cell, spot.pen, spot.row⟩

def Spot.beginsLink (spot : Spot) : Bool :=
  spot.token.link.isSome

/-- The link that begins at a spot. -/
def Spot.link (spot : Spot) : String :=
  String.ofList (spot.token.link.getD [])

/-- The overlay with the number of the link that begins at a spot. -/
def Spot.badge (spot : Spot) (index : Nat) : Overlay :=
  ⟨.link index, spot.pen, spot.row⟩

/-- The characters at the spots in a row. -/
def glyphsIn (spots : List Spot) (row : Nat) : List Face.PlacedGlyph :=
  (spots.filter fun spot => spot.row = row).filterMap Spot.glyph?

/-- The spots whose links get a number when `linkBase` links have one. -/
def numbered (linkBase : Nat) (spots : List Spot) : List Spot :=
  (spots.filter Spot.beginsLink).take (maxLinks - linkBase)

/-- The badges of spots that are numbered from `linkBase` on. -/
def badges (linkBase : Nat) (spots : List Spot) : List Overlay :=
  (spots.zipIdx linkBase).map fun entry => entry.1.badge entry.2

section Kinds

variable (spot : Spot) (spots : List Spot) (index : Nat)

theorem filter_isLink_badge :
    (spots.map (Spot.badge · index)).filter Overlay.isLink = spots.map (Spot.badge · index) := by
  simp [Spot.badge, Overlay.isLink]

theorem filter_not_isLink_badge :
    (spots.map (Spot.badge · index)).filter (fun overlay => !overlay.isLink) = [] := by
  simp [Spot.badge, Overlay.isLink]

theorem filter_isLink_sprite : spot.sprite?.toList.filter Overlay.isLink = [] := by
  rcases spot with ⟨line, offset, ⟨item, link⟩, row, pen⟩
  cases item <;> rfl

theorem filter_not_isLink_sprite :
    spot.sprite?.toList.filter (fun overlay => !overlay.isLink) = spot.sprite?.toList := by
  rcases spot with ⟨line, offset, ⟨item, link⟩, row, pen⟩
  cases item <;> rfl

end Kinds

theorem badges_append (linkBase : Nat) (first second : List Spot) :
    badges linkBase (first ++ second) =
      badges linkBase first ++ badges (linkBase + first.length) second := by
  rw [badges, List.zipIdx_append, List.map_append]
  rfl

theorem numbered_concat (linkBase : Nat) (spots : List Spot) (spot : Spot) :
    numbered linkBase (spots ++ [spot]) =
      numbered linkBase spots ++
        if spot.beginsLink ∧ linkBase + (numbered linkBase spots).length < maxLinks then [spot]
        else [] := by
  rw [numbered, List.filter_append, List.take_append, numbered, List.length_take]
  congr 1
  cases begins : spot.beginsLink with
  | false => simp [begins]
  | true =>
      simp only [List.filter_cons, begins, List.filter_nil, if_true, true_and]
      split
      · exact List.take_of_length_le (by simp only [List.length_singleton]; omega)
      · rw [show maxLinks - linkBase - (spots.filter Spot.beginsLink).length = 0 by omega]
        rfl

theorem glyphsIn_concat (spots : List Spot) (spot : Spot) (row : Nat) :
    glyphsIn (spots ++ [spot]) row =
      glyphsIn spots row ++ if spot.row = row then spot.glyph?.toList else [] := by
  rw [glyphsIn, List.filter_append, List.filterMap_append]
  by_cases same : spot.row = row
  · cases shown : spot.glyph? <;> simp [same, shown, glyphsIn]
  · simp [same, glyphsIn]

theorem glyphsIn_eq_nil {spots : List Spot} {row : Nat} (above : ∀ spot ∈ spots, spot.row < row) :
    glyphsIn spots row = [] := by
  have none : spots.filter (fun spot => spot.row = row) = [] := by
    refine List.filter_eq_nil_iff.mpr fun spot member => ?_
    simpa using Nat.ne_of_lt (above spot member)
  rw [glyphsIn, none, List.filterMap_nil]

namespace Setting

section Steps

variable (setting : Setting) (face : Face) (linkBase : Nat) (spot : Spot)

theorem rows_put : (setting.put face spot.row spot.pen spot.token.item).rows = setting.rows := by
  rcases spot with ⟨line, offset, ⟨item, link⟩, row, pen⟩
  cases item <;> rfl

theorem links_put : (setting.put face spot.row spot.pen spot.token.item).links = setting.links := by
  rcases spot with ⟨line, offset, ⟨item, link⟩, row, pen⟩
  cases item <;> rfl

theorem glyphs_put :
    (setting.put face spot.row spot.pen spot.token.item).glyphs.toList =
      setting.glyphs.toList ++ spot.glyph?.toList := by
  rcases spot with ⟨line, offset, ⟨item, link⟩, row, pen⟩
  cases item with
  | glyph char => exact Array.toList_push
  | emoji cell => exact (List.append_nil _).symm

theorem overlays_put :
    (setting.put face spot.row spot.pen spot.token.item).overlays.toList =
      setting.overlays.toList ++ spot.sprite?.toList := by
  rcases spot with ⟨line, offset, ⟨item, link⟩, row, pen⟩
  cases item with
  | glyph char => exact (List.append_nil _).symm
  | emoji cell => exact Array.toList_push

/-- The spot itself, if its link gets a number. -/
def receives (linkBase : Nat) (setting : Setting) (spot : Spot) : List Spot :=
  if spot.beginsLink ∧ linkBase + setting.links.size < maxLinks then [spot] else []

theorem rows_number :
    (setting.number linkBase spot.row spot.pen spot.token.link).rows = setting.rows := by
  change (setting.number linkBase spot.row spot.pen spot.token.link).pose.rows = setting.rows
  rw [pose_number]
  rfl

theorem glyphs_number :
    (setting.number linkBase spot.row spot.pen spot.token.link).glyphs = setting.glyphs := by
  change (setting.number linkBase spot.row spot.pen spot.token.link).pose.glyphs = setting.glyphs
  rw [pose_number]
  rfl

theorem overlays_number :
    (setting.number linkBase spot.row spot.pen spot.token.link).overlays.toList =
      setting.overlays.toList ++
        (setting.receives linkBase spot).map (Spot.badge · (linkBase + setting.links.size)) := by
  rcases spot with ⟨line, offset, ⟨item, link⟩, row, pen⟩
  cases link with
  | none => simp [number, receives, Spot.beginsLink]
  | some link =>
      by_cases room : linkBase + setting.links.size < maxLinks <;>
        simp [number, receives, Spot.beginsLink, Spot.badge, room]

theorem links_number :
    (setting.number linkBase spot.row spot.pen spot.token.link).links.toList =
      setting.links.toList ++ (setting.receives linkBase spot).map Spot.link := by
  rcases spot with ⟨line, offset, ⟨item, link⟩, row, pen⟩
  cases link with
  | none => simp [number, receives, Spot.beginsLink]
  | some link =>
      by_cases room : linkBase + setting.links.size < maxLinks <;>
        simp [number, receives, Spot.beginsLink, Spot.link, room]

end Steps

/-- What a setting holds when tokens were put on spots. -/
structure Records (linkBase : Nat) (setting : Setting) (spots : List Spot) : Prop where
  rows : setting.rows.toList.map (fun row => row.glyphs.toList) =
    (List.range setting.rows.size).map (glyphsIn spots)
  glyphs : setting.glyphs.toList = glyphsIn spots setting.rows.size
  within : ∀ spot ∈ spots, spot.row ≤ setting.rows.size
  ordered : spots.Pairwise fun earlier later => earlier.row ≤ later.row
  sprites : setting.overlays.toList.filter (fun overlay => !overlay.isLink) =
    spots.filterMap Spot.sprite?
  badges : setting.overlays.toList.filter Overlay.isLink =
    badges linkBase (numbered linkBase spots)
  links : setting.links.toList = (numbered linkBase spots).map Spot.link

namespace Records

variable {linkBase : Nat} {setting : Setting} {spots : List Spot}

theorem finishRow (records : setting.Records linkBase spots) :
    setting.finishRow.Records linkBase spots where
  rows := by
    rw [Setting.finishRow, Array.toList_push, List.map_append, records.rows, Array.size_push,
      List.range_succ, List.map_append]
    exact congrArg _ (congrArg (fun glyphs => [glyphs]) records.glyphs)
  glyphs := by
    rw [Setting.finishRow, Array.size_push, glyphsIn_eq_nil]
    intro spot member
    exact Nat.lt_succ_of_le (records.within spot member)
  within spot member := by
    rw [Setting.finishRow, Array.size_push]
    exact Nat.le_succ_of_le (records.within spot member)
  ordered := records.ordered
  sprites := records.sprites
  badges := records.badges
  links := records.links

theorem roomFor (records : setting.Records linkBase spots) (face : Face) (right : Float32)
    (item : Item) : (setting.roomFor face right item).Records linkBase spots := by
  rw [Setting.roomFor]
  split
  · exact records.finishRow
  · exact records

/-- A token that is put into the row being set, with the number of its link. -/
theorem settle (records : setting.Records linkBase spots) (face : Face) (spot : Spot)
    (row : spot.row = setting.rows.size) :
    ((setting.number linkBase spot.row spot.pen spot.token.link).put face spot.row spot.pen
      spot.token.item).Records linkBase (spots ++ [spot]) := by
  have count : setting.links.size = (numbered linkBase spots).length := by
    rw [← Array.length_toList, records.links, List.length_map]
  -- The number of a link is how many were numbered before it, so the counts must agree first.
  have more : numbered linkBase (spots ++ [spot]) =
      numbered linkBase spots ++ setting.receives linkBase spot := by
    rw [numbered_concat, Setting.receives, count]
  constructor
  case rows =>
    rw [rows_put, rows_number, records.rows]
    refine List.map_congr_left fun other below => ?_
    have differ : spot.row ≠ other := by
      rw [row]
      exact (Nat.ne_of_lt (List.mem_range.mp below)).symm
    rw [glyphsIn_concat, if_neg differ, List.append_nil]
  case glyphs =>
    rw [glyphs_put, glyphs_number, records.glyphs, rows_put, rows_number, glyphsIn_concat,
      if_pos row]
  case within =>
    rw [rows_put, rows_number]
    intro other member
    rcases List.mem_append.mp member with earlier | last
    · exact records.within other earlier
    · rw [List.mem_singleton.mp last]
      exact Nat.le_of_eq row
  case ordered =>
    refine List.pairwise_append.mpr ⟨records.ordered, List.pairwise_singleton _ _, ?_⟩
    intro earlier member later last
    rw [List.mem_singleton.mp last, row]
    exact records.within earlier member
  case sprites =>
    rw [overlays_put, overlays_number, List.filter_append, List.filter_append, records.sprites,
      filter_not_isLink_badge, filter_not_isLink_sprite, List.append_nil, List.filterMap_append]
    cases shown : spot.sprite? <;> simp [shown]
  case badges =>
    rw [overlays_put, overlays_number, more, List.filter_append, List.filter_append,
      records.badges, filter_isLink_badge, filter_isLink_sprite, List.append_nil, count,
      Setting.receives]
    split
    · exact (badges_append linkBase _ [spot]).symm
    · simp
  case links =>
    rw [links_put, links_number, records.links, more, List.map_append]

theorem place (records : setting.Records linkBase spots) (face : Face) (right : Float32)
    (line : Nat) (entry : Nat × Token) :
    (setting.place face right linkBase entry.2).Records linkBase
      (spots ++ [setting.spotFor face right line entry]) := by
  have row := size_rows_roomFor face right setting entry.2.item
  rw [place_eq]
  dsimp only
  rw [row]
  exact (records.roomFor face right entry.2.item).settle face
    (setting.spotFor face right line entry) row.symm

theorem trace (records : setting.Records linkBase spots) (face : Face) (right : Float32)
    (line : Nat) (entries : List (Nat × Token)) :
    ((entries.map Prod.snd).foldl (Setting.place face right linkBase) setting).Records linkBase
      (spots ++ Layout.trace face right linkBase line setting entries) := by
  induction entries generalizing setting spots with
  | nil => rwa [Layout.trace, List.append_nil]
  | cons entry rest ih =>
      have placed := ih (records.place face right line entry)
      rwa [List.append_assoc] at placed

end Records

end Setting

/-- What a layout holds when the tokens in its rows are on spots. -/
structure Shows (linkBase : Nat) (layout : Layout) (spots : List Spot) : Prop where
  rows : layout.rows.toList.map (fun row => row.glyphs.toList) =
    (List.range layout.rows.size).map (glyphsIn spots)
  below : ∀ spot ∈ spots, spot.row < layout.rows.size
  ordered : spots.Pairwise fun earlier later => earlier.row ≤ later.row
  sprites : layout.overlays.toList.filter (fun overlay => !overlay.isLink) =
    spots.filterMap Spot.sprite?
  badges : layout.overlays.toList.filter Overlay.isLink =
    badges linkBase (numbered linkBase spots)
  links : layout.links.toList = (numbered linkBase spots).map Spot.link

theorem Setting.Records.shows {linkBase : Nat} {setting : Setting} {spots : List Spot}
    (records : setting.Records linkBase spots) :
    setting.finishRow.layout.Shows linkBase spots where
  rows := records.finishRow.rows
  below spot member := by
    show spot.row < (setting.rows.push _).size
    rw [Array.size_push]
    exact Nat.lt_succ_of_le (records.within spot member)
  ordered := records.ordered
  sprites := records.sprites
  badges := records.badges
  links := records.links

/-! ## Whole texts -/

namespace Shows

variable {linkBase : Nat} {spots : List Spot}

theorem beginLine {setting : Setting} (shown : setting.layout.Shows linkBase spots) :
    setting.beginLine.Records linkBase spots where
  rows := shown.rows
  glyphs := (glyphsIn_eq_nil shown.below).symm
  within spot member := Nat.le_of_lt (shown.below spot member)
  ordered := shown.ordered
  sprites := shown.sprites
  badges := shown.badges
  links := shown.links

theorem setLine {setting : Setting} (shown : setting.layout.Shows linkBase spots) (face : Face)
    (table : Emoji.Table) (right : Float32) (line : Nat) (chars : List Char) :
    (setting.setLine face table right linkBase chars).layout.Shows linkBase
      (spots ++ trace face right linkBase line setting.beginLine (tokensFrom table 0 chars)) := by
  have traced := shown.beginLine.trace face right line (tokensFrom table 0 chars)
  rw [map_snd_tokensFrom] at traced
  exact traced.shows

theorem setLines {setting : Setting} (shown : setting.layout.Shows linkBase spots) (face : Face)
    (table : Emoji.Table) (right : Float32) (line : Nat) (lines : List (List Char)) :
    (lines.foldl (Setting.setLine face table right linkBase) setting).layout.Shows linkBase
      (spots ++ traceLines face table right linkBase line setting lines) := by
  induction lines generalizing setting spots line with
  | nil => rwa [traceLines, List.append_nil]
  | cons chars rest ih =>
      have more := ih (shown.setLine face table right line chars) (line + 1)
      rwa [List.append_assoc] at more

end Shows

/-- Before it is cut, a layout shows every token of its text. -/
theorem shows_whole (face : Face) (table : Emoji.Table) (text : String) (width linkBase : Nat) :
    (whole face table text width linkBase).Shows linkBase (spots face table text width) := by
  have empty : Setting.start.layout.Shows linkBase [] :=
    ⟨rfl, by simp, .nil, rfl, by simp [numbered, badges, Setting.layout, Setting.start],
      by simp [numbered, Setting.layout, Setting.start]⟩
  have shown := empty.setLines face table (rightEdge width) 0 (sourceLines (expandTabs text.toList))
  rwa [List.nil_append, traceLines_eq_of_pose rfl linkBase 0] at shown

/-! ## Texts that are cut -/

/-- Of spots in the order of their rows, those in the first rows come first. -/
theorem filter_append_filter_of_ordered {spots : List Spot} (count : Nat)
    (ordered : spots.Pairwise fun earlier later => earlier.row ≤ later.row) :
    (spots.filter fun spot => spot.row < count) ++ (spots.filter fun spot => ¬ spot.row < count) =
      spots := by
  induction spots with
  | nil => rfl
  | cons spot rest ih =>
      rw [List.pairwise_cons] at ordered
      by_cases above : spot.row < count
      · simp only [List.filter_cons, above, decide_true, if_true, not_true, decide_false,
          List.cons_append, Bool.false_eq_true, if_false]
        rw [ih ordered.2]
      · have none : rest.filter (fun spot => spot.row < count) = [] := by
          refine List.filter_eq_nil_iff.mpr fun later member => ?_
          simpa using Nat.le_trans (Nat.le_of_not_lt above) (ordered.1 later member)
        have all : rest.filter (fun spot => ¬ spot.row < count) = rest := by
          refine List.filter_eq_self.mpr fun later member => ?_
          simpa using Nat.le_trans (Nat.le_of_not_lt above) (ordered.1 later member)
        simp only [List.filter_cons, above, decide_false, Bool.false_eq_true, if_false, none,
          List.nil_append, not_false_eq_true, decide_true, if_true, all]

theorem row_of_mem_badges {linkBase : Nat} {spots : List Spot} {overlay : Overlay}
    (member : overlay ∈ badges linkBase spots) : ∃ spot ∈ spots, overlay.row = spot.row := by
  rcases List.mem_map.mp member with ⟨entry, listed, rfl⟩
  exact ⟨entry.1, List.fst_mem_of_mem_zipIdx listed, rfl⟩

/-- Links in the first rows are numbered as if there were no others. -/
theorem exists_numbered_eq_append {spots : List Spot} (linkBase count : Nat)
    (ordered : spots.Pairwise fun earlier later => earlier.row ≤ later.row) :
    ∃ dropped, numbered linkBase spots =
        numbered linkBase (spots.filter fun spot => spot.row < count) ++ dropped ∧
      ∀ spot ∈ dropped, ¬ spot.row < count := by
  refine ⟨((spots.filter fun spot => ¬ spot.row < count).filter Spot.beginsLink).take
    (maxLinks - linkBase -
      ((spots.filter fun spot => spot.row < count).filter Spot.beginsLink).length), ?_, ?_⟩
  · rw [numbered, numbered, ← List.take_append, ← List.filter_append,
      filter_append_filter_of_ordered count ordered]
  · intro spot member
    have kept := (List.mem_filter.mp (List.mem_of_mem_take member)).1
    simpa using (List.mem_filter.mp kept).2

theorem filter_badges_of_dropped {linkBase count : Nat} {kept dropped : List Spot}
    (above : ∀ spot ∈ kept, spot.row < count) (below : ∀ spot ∈ dropped, ¬ spot.row < count) :
    (badges linkBase (kept ++ dropped)).filter (fun overlay => overlay.row < count) =
      badges linkBase kept := by
  rw [badges_append, List.filter_append, List.filter_eq_self.mpr, List.filter_eq_nil_iff.mpr,
    List.append_nil]
  · intro overlay member
    rcases row_of_mem_badges member with ⟨spot, among, same⟩
    simpa [same] using below spot among
  · intro overlay member
    rcases row_of_mem_badges member with ⟨spot, among, same⟩
    simpa [same] using above spot among

theorem filterMap_sprite?_filter (spots : List Spot) (count : Nat) :
    (spots.filter fun spot => spot.row < count).filterMap Spot.sprite? =
      (spots.filterMap Spot.sprite?).filter fun overlay => overlay.row < count := by
  rw [List.filter_filterMap, List.filterMap_filter]
  congr 1
  funext spot
  rcases spot with ⟨line, offset, ⟨item, link⟩, row, pen⟩
  cases item with
  | glyph char => exact ite_self none
  | emoji cell => rfl

theorem glyphsIn_filter {spots : List Spot} {count row : Nat} (above : row < count) :
    glyphsIn (spots.filter fun spot => spot.row < count) row = glyphsIn spots row := by
  rw [glyphsIn, List.filter_filter, glyphsIn]
  refine congrArg _ (List.filter_congr fun spot _ => ?_)
  by_cases same : spot.row = row <;> simp [same, above]

theorem filter_filter_comm {α : Type} (first second : α → Bool) (list : List α) :
    (list.filter first).filter second = (list.filter second).filter first := by
  rw [List.filter_filter, List.filter_filter]
  exact List.filter_congr fun _ _ => Bool.and_comm _ _

theorem toList_take {α : Type} (array : Array α) (count : Nat) :
    (array.take count).toList = array.toList.take count := by
  simp

theorem size_rows_cut (layout : Layout) (author : String)
    (long : maxRows - 1 ≤ layout.rows.size) : (layout.cut author).rows.size = maxRows - 1 := by
  rw [Layout.cut, Array.take_eq_extract, Array.size_extract]
  omega

/-- A cut keeps what is in the rows that it keeps, with the same numbers. -/
theorem Shows.cut {linkBase : Nat} {layout : Layout} {spots : List Spot}
    (shown : layout.Shows linkBase spots) (long : maxRows - 1 ≤ layout.rows.size)
    (author : String) :
    (layout.cut author).Shows linkBase (spots.filter fun spot => spot.row < maxRows - 1) := by
  have size := layout.size_rows_cut author long
  rcases exists_numbered_eq_append linkBase (maxRows - 1) shown.ordered with
    ⟨dropped, numbers, below⟩
  have above : ∀ spot ∈ numbered linkBase (spots.filter fun spot => spot.row < maxRows - 1),
      spot.row < maxRows - 1 := by
    intro spot member
    have kept := (List.mem_filter.mp (List.mem_of_mem_take member)).1
    simpa using (List.mem_filter.mp kept).2
  have badges : ((layout.cut author).overlays.toList.filter Overlay.isLink) =
      Layout.badges linkBase
        (numbered linkBase (spots.filter fun spot => spot.row < maxRows - 1)) := by
    rw [Layout.cut, Array.toList_filter, filter_filter_comm, shown.badges, numbers]
    exact filter_badges_of_dropped above below
  constructor
  case rows =>
    rw [size, Layout.cut, toList_take, List.map_take, shown.rows, ← List.map_take,
      List.take_range, Nat.min_eq_left long]
    refine List.map_congr_left fun row inside => ?_
    exact (glyphsIn_filter (List.mem_range.mp inside)).symm
  case below =>
    intro spot member
    rw [size]
    simpa using (List.mem_filter.mp member).2
  case ordered => exact shown.ordered.filter _
  case sprites =>
    rw [filterMap_sprite?_filter, ← shown.sprites, filter_filter_comm, Layout.cut,
      Array.toList_filter]
  case badges => exact badges
  case links =>
    have count : ((layout.cut author).overlays.filter Overlay.isLink).size =
        (numbered linkBase (spots.filter fun spot => spot.row < maxRows - 1)).length := by
      rw [← Array.length_toList, Array.toList_filter, badges, Layout.badges, List.length_map,
        List.length_zipIdx]
    show (layout.links.take ((layout.cut author).overlays.filter Overlay.isLink).size).toList = _
    rw [count, toList_take, shown.links, numbers, List.map_append]
    exact List.take_left' (List.length_map _)

/-- Those of some spots that are in a row of a layout. -/
def kept (layout : Layout) (spots : List Spot) : List Spot :=
  spots.filter fun spot => spot.row < layout.rows.size

/-- The layout of a text shows every token in its rows, and numbers their links in order. -/
theorem shows_ofText (face : Face) (table : Emoji.Table) (text : String) (width : Nat)
    (author : String) (linkBase : Nat) :
    (ofText face table text width author linkBase).Shows linkBase
      ((ofText face table text width author linkBase).kept (spots face table text width)) := by
  have shown := shows_whole face table text width linkBase
  rw [ofText]
  split
  case isTrue long =>
    have enough : maxRows - 1 ≤ (whole face table text width linkBase).rows.size :=
      Nat.le_of_succ_le long
    rw [kept, size_rows_cut _ author enough]
    exact shown.cut enough author
  case isFalse =>
    rw [kept, List.filter_eq_self.mpr fun spot member => by simpa using shown.below spot member]
    exact shown

/-- A layout has the token of a spot where the spot says. -/
def Has (layout : Layout) (spot : Spot) : Prop :=
  match spot.token.item with
  | .glyph char => ∃ row, layout.rows[spot.row]? = some row ∧ ⟨char, spot.pen⟩ ∈ row.glyphs
  | .emoji cell => ⟨.emoji cell, spot.pen, spot.row⟩ ∈ layout.overlays

theorem Shows.has {linkBase : Nat} {layout : Layout} {spots : List Spot}
    (shown : layout.Shows linkBase spots) {spot : Spot} (member : spot ∈ spots) :
    layout.Has spot := by
  rw [Has]
  split
  case h_1 char item =>
    have inside := shown.below spot member
    have shows := congrArg (·[spot.row]?) shown.rows
    simp only [List.getElem?_map, List.getElem?_range inside, Option.map_some,
      Array.getElem?_toList, Array.getElem?_eq_getElem inside, Option.some.injEq] at shows
    refine ⟨layout.rows[spot.row], Array.getElem?_eq_getElem inside, ?_⟩
    rw [← Array.mem_toList_iff, shows]
    refine List.mem_filterMap.mpr ⟨spot, List.mem_filter.mpr ⟨member, by simp⟩, ?_⟩
    rw [Spot.glyph?, item]
  case h_2 cell item =>
    have sprite : ⟨.emoji cell, spot.pen, spot.row⟩ ∈ spots.filterMap Spot.sprite? :=
      List.mem_filterMap.mpr ⟨spot, member, by rw [Spot.sprite?, item]⟩
    rw [← shown.sprites] at sprite
    exact Array.mem_toList_iff.mp (List.mem_filter.mp sprite).1

end FrameChat.Layout
