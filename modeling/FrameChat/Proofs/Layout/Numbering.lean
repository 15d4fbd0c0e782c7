import FrameChat.Proofs.Layout.Contents
import FrameChat.Proofs.Layout.Reading

/-!
# Numbers of links

The links of a text begin where a token does and the rest of its line begins like a web
address.  The first ones of them get a number each, in the order of the text, as long as there
are numbers left in the frame, and a badge with the number where their token is set.

When a text is cut, the badges in its first rows stay.  They belong to the first links, so that
the links that stay are again numbered without gaps (`indices`).

* `links_whole`, `badges_whole`: the links of a text and their badges.
* `CutBelow`, `cutBelow_cut`: what stays of a layout that is cut.
* `numbered_and_cut`: the links of a layout, before and after it is cut.
-/

namespace FrameChat.Layout

/-- The number that an overlay shows. -/
def Overlay.index? (overlay : Overlay) : Option Nat :=
  match overlay.kind with
  | .link index => some index
  | .emoji _ => none

theorem index?_of_not_isLink {overlay : Overlay} (emoji : ¬ overlay.isLink = true) :
    overlay.index? = none := by
  rcases overlay with ⟨kind, x, row⟩
  cases kind with
  | link index => exact absurd rfl emoji
  | emoji cell => rfl

theorem filterMap_index?_filter (overlays : List Overlay) :
    (overlays.filter Overlay.isLink).filterMap Overlay.index? =
      overlays.filterMap Overlay.index? := by
  rw [List.filterMap_filter]
  refine List.filterMap_congr fun overlay _ => ?_
  split
  · rfl
  · exact (index?_of_not_isLink ‹_›).symm

theorem filterMap_index?_badges (linkBase : Nat) (spots : List Spot) :
    (badges linkBase spots).filterMap Overlay.index? = List.range' linkBase spots.length := by
  rw [badges, List.filterMap_map, ← List.zipIdx_map_snd, ← List.filterMap_eq_map]
  rfl

namespace Shows

variable {linkBase : Nat} {layout : Layout} {spots : List Spot}

theorem size_links (shown : layout.Shows linkBase spots) :
    layout.links.size = (numbered linkBase spots).length := by
  rw [← Array.length_toList, shown.links, List.length_map]

/-- The badges of a layout have the numbers of its links. -/
theorem indices (shown : layout.Shows linkBase spots) :
    layout.overlays.toList.filterMap Overlay.index? =
      List.range' linkBase layout.links.size := by
  rw [← filterMap_index?_filter, shown.badges, filterMap_index?_badges, shown.size_links]

end Shows

/-! ## Where links begin -/

/-- What stands in a source line of a text from an offset on. -/
def restAt (text : String) (line offset : Nat) : List Char :=
  ((sourceLines (expandTabs text.toList))[line]?.getD []).drop offset

/-- Whether characters begin like a web address. -/
def beginsAddress (chars : List Char) : Bool :=
  "http://".toList.isPrefixOf chars || "https://".toList.isPrefixOf chars

/-- The characters before the first blank. -/
def runOf (chars : List Char) : String :=
  String.ofList (chars.takeWhile fun char => !Text.isBlank char)

/-- The items of source lines, each with its line and its offset. -/
def positions (contents : List (List (Nat × Item))) : List (Nat × Nat × Item) :=
  contents.zipIdx.flatMap fun entry => entry.1.map (Prod.mk entry.2)

/-- The item of a spot, with its line and its offset. -/
def Spot.position (spot : Spot) : Nat × Nat × Item :=
  (spot.line, spot.offset, spot.token.item)

/-- The spots at which an address begins in a text. -/
def addressesIn (text : String) (spots : List Spot) : List Spot :=
  spots.filter fun spot => beginsAddress (restAt text spot.line spot.offset)

section Whole

variable {face : Face} {table : Emoji.Table} {text : String} {width : Nat}

theorem link_of_mem_spots {spot : Spot} (member : spot ∈ spots face table text width) :
    spot.token.link = linkAt (restAt text spot.line spot.offset) := by
  rcases heads_of_mem_spots member with ⟨chars, found, char, rest, -, -, link, -⟩
  rw [link, restAt, found, Option.getD_some]

theorem filter_beginsLink_spots :
    (spots face table text width).filter Spot.beginsLink =
      addressesIn text (spots face table text width) := by
  refine List.filter_congr fun spot member => ?_
  rw [Spot.beginsLink, link_of_mem_spots member, linkAt, beginsAddress]
  split
  case isTrue begins => rw [begins, Option.isSome_some]
  case isFalse other => exact (eq_false_of_ne_true other).symm

theorem numbered_spots (linkBase : Nat) :
    numbered linkBase (spots face table text width) =
      (addressesIn text (spots face table text width)).take (maxLinks - linkBase) := by
  rw [numbered, filter_beginsLink_spots]

theorem link_of_mem_addressesIn {spot : Spot}
    (member : spot ∈ addressesIn text (spots face table text width)) :
    spot.link = runOf (restAt text spot.line spot.offset) := by
  rcases List.mem_filter.mp member with ⟨inText, begins⟩
  rw [Spot.link, link_of_mem_spots inText, linkAt, ← beginsAddress, if_pos begins]
  rfl

variable (face table text width)

theorem position_spots :
    (spots face table text width).map Spot.position =
      positions ((sourceLines (expandTabs text.toList)).map (itemsFrom table 0)) := by
  have placed := map_place_spots face table text width
  have forgotten := congrArg
    (List.map fun place : Nat × Nat × Token => (place.1, place.2.1, place.2.2.item)) placed
  rw [List.map_map] at forgotten
  refine forgotten.trans ?_
  rw [places, positions, List.map_flatMap, List.zipIdx_map, List.flatMap_map]
  refine List.flatMap_congr fun entry _ => ?_
  show _ = (itemsFrom table 0 entry.1).map (Prod.mk entry.2)
  rw [itemsFrom, List.map_map, List.map_map]
  rfl

/-- The links of a text that are recorded are the first ones. -/
theorem links_whole (linkBase : Nat) :
    (whole face table text width linkBase).links.toList =
      ((addressesIn text (spots face table text width)).take (maxLinks - linkBase)).map fun spot =>
        runOf (restAt text spot.line spot.offset) := by
  rw [(shows_whole face table text width linkBase).links, numbered_spots]
  exact List.map_congr_left fun spot member =>
    link_of_mem_addressesIn (List.mem_of_mem_take member)

/-- A badge is where the token is with which its link begins. -/
theorem badges_whole (linkBase : Nat) :
    (whole face table text width linkBase).overlays.toList.filter Overlay.isLink =
      badges linkBase
        ((addressesIn text (spots face table text width)).take (maxLinks - linkBase)) := by
  rw [(shows_whole face table text width linkBase).badges, numbered_spots]

end Whole

/-! ## Cuts -/

/-- A layout is what another one shows in its first rows, with a marker below. -/
structure CutBelow (full : Layout) (author : String) (count : Nat) (layout : Layout) : Prop where
  rows : layout.rows.toList = full.rows.toList.take count
  marker : layout.marker = some (markerFor author)
  overlays : layout.overlays.toList = full.overlays.toList.filter fun overlay => overlay.row < count
  links : layout.links.toList <+: full.links.toList
  /-- a link stays exactly if its badge does -/
  badges : ∀ (index : Nat) (badge : Overlay),
    (full.overlays.toList.filter Overlay.isLink)[index]? = some badge →
      (index < layout.links.size ↔ badge.row < count)

theorem exists_spot_of_badges {linkBase index : Nat} {spots : List Spot} {badge : Overlay}
    (found : (badges linkBase spots)[index]? = some badge) :
    ∃ spot, spots[index]? = some spot ∧ badge.row = spot.row := by
  rw [badges, List.getElem?_map, List.getElem?_zipIdx, Option.map_map] at found
  rcases Option.map_eq_some_iff.mp found with ⟨spot, here, rfl⟩
  exact ⟨spot, here, rfl⟩

theorem cutBelow_cut {linkBase : Nat} {full : Layout} {spots : List Spot}
    (shown : full.Shows linkBase spots) (long : maxRows - 1 ≤ full.rows.size) (author : String) :
    full.CutBelow author (maxRows - 1) (full.cut author) where
  rows := toList_take full.rows (maxRows - 1)
  marker := rfl
  overlays := Array.toList_filter
  links := by
    rw [cut, toList_take]
    exact List.take_prefix _ _
  badges := by
    intro index badge found
    rcases exists_numbered_eq_append linkBase (maxRows - 1) shown.ordered with
      ⟨dropped, numbers, below⟩
    rw [shown.badges] at found
    rcases exists_spot_of_badges found with ⟨spot, here, row⟩
    rw [(shown.cut long author).size_links, row]
    rw [numbers] at here
    by_cases early : index < (numbered linkBase
        (spots.filter fun spot => spot.row < maxRows - 1)).length
    · rw [List.getElem?_append_left early] at here
      have kept := List.mem_of_mem_take (List.mem_of_getElem? here)
      have above := (List.mem_filter.mp (List.mem_filter.mp kept).1).2
      exact iff_of_true early (of_decide_eq_true above)
    · rw [List.getElem?_append_right (Nat.le_of_not_lt early)] at here
      exact iff_of_false early (below spot (List.mem_of_getElem? here))

theorem rowCount_ofText_le (face : Face) (table : Emoji.Table) (text : String) (width : Nat)
    (author : String) (linkBase : Nat) :
    (ofText face table text width author linkBase).rowCount ≤ maxRows := by
  rw [ofText]
  split
  case isTrue long =>
    rw [rowCount, size_rows_cut _ author (Nat.le_of_succ_le long)]
    exact Nat.le_refl maxRows
  case isFalse short => exact Nat.le_of_lt (Nat.lt_of_not_le short)

/--
The links of a text are numbered in its order, from `linkBase` on and up to sixteen, and each has
a badge where its first token is set.  A layout of ten rows or more is cut to nine and a marker,
and keeps the links whose badges stay, so that badges and links have the same numbers in any case.
-/
theorem numbered_and_cut (clusters : List (List Char)) (face : Face) (text : String)
    (width : Nat) (author : String) (linkBase : Nat) :
    let table := Emoji.Table.ofSequences clusters
    let full := whole face table text width linkBase
    let layout := ofText face table text width author linkBase
    (∃ (contents : List (List (Nat × Item))) (spots : List Spot),
      ReadsText clusters text contents ∧ spots.map Spot.position = positions contents ∧
      full.Shows linkBase spots ∧
      full.links.toList = ((addressesIn text spots).take (16 - linkBase)).map (fun spot =>
        runOf (restAt text spot.line spot.offset)) ∧
      full.overlays.toList.filter Overlay.isLink =
        (((addressesIn text spots).take (16 - linkBase)).zipIdx linkBase).map fun entry =>
          ⟨.link entry.2, entry.1.pen, entry.1.row⟩) ∧
    (full.rows.size < 10 → layout = full) ∧
    (10 ≤ full.rows.size → full.CutBelow author 9 layout) ∧
    layout.rowCount ≤ 10 ∧
    layout.overlays.toList.filterMap Overlay.index? = List.range' linkBase layout.links.size := by
  intro table full layout
  have shown := shows_whole face table text width linkBase
  refine ⟨?_, ?_, ?_, ?_, ?_⟩
  · exact ⟨_, spots face table text width, readsText_iff.mpr rfl,
      position_spots face table text width, shown, links_whole face table text width linkBase,
      badges_whole face table text width linkBase⟩
  · intro short
    exact if_neg (Nat.not_le_of_lt short)
  · intro long
    have cut : layout = full.cut author := if_pos long
    rw [cut]
    exact cutBelow_cut shown (Nat.le_of_succ_le long) author
  · exact rowCount_ofText_le face table text width author linkBase
  · exact (shows_ofText face table text width author linkBase).indices

end FrameChat.Layout
