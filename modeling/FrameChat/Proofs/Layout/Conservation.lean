import FrameChat.Proofs.Layout.Numbering
import FrameChat.Proofs.Layout.Wrapping

/-!
# Nothing is lost in a layout

Each source line of a text has rows of its own, at least one.  Read from left to right and one
after the other, they show the characters and the emoji of the line, each once and in order
(`ShowsLines`).  What they show depends on the text alone: another face or another width breaks
the rows elsewhere and moves the pens, but shows the same (`contents_conserved`).
-/

namespace FrameChat.Layout

/-- The sprite that an overlay shows. -/
def Overlay.cell? (overlay : Overlay) : Option Emoji.Cell :=
  match overlay.kind with
  | .link _ => none
  | .emoji cell => some cell

/-- The characters of a row and the emoji over it. -/
def shownIn (layout : Layout) (row : Nat) : List Char × List Emoji.Cell :=
  ((layout.rows[row]?.map fun row => row.glyphs.toList.map Face.PlacedGlyph.char).getD [],
    layout.overlays.toList.filterMap fun overlay =>
      if overlay.row = row then overlay.cell? else none)

/-- What is set in a row of items. -/
def contentOf (row : List Placed) : List Char × List Emoji.Cell :=
  (row.filterMap fun placed => placed.item.char?, row.filterMap fun placed => placed.item.cell?)

/-- What the rows of a layout show. -/
def shown (layout : Layout) : List (List Char × List Emoji.Cell) :=
  (List.range layout.rows.size).map layout.shownIn

/-- Some rows show items one after the other. -/
structure ShowsItems (rows : List (List Char × List Emoji.Cell)) (items : List Item) : Prop where
  present : rows ≠ []
  chars : rows.flatMap Prod.fst = items.filterMap Item.char?
  cells : rows.flatMap Prod.snd = items.filterMap Item.cell?

/-- The rows of a layout fall into groups, each of which shows the items of one source line. -/
structure ShowsLines (layout : Layout) (contents : List (List Item)) : Prop where
  lines : ∃ groups, groups.flatten = layout.shown ∧ List.Forall₂ ShowsItems groups contents
  cells : layout.overlays.toList.filterMap Overlay.cell? = contents.flatten.filterMap Item.cell?

/-! ## Rows of items -/

theorem map_char_glyphs (row : List Placed) :
    (row.filterMap Placed.glyph?).map Face.PlacedGlyph.char =
      row.filterMap fun placed => placed.item.char? := by
  rw [List.map_filterMap]
  refine List.filterMap_congr fun placed _ => ?_
  rw [Placed.glyph?, Option.map_map]
  exact Option.map_id_apply

theorem bind_cell?_sprite? {row : Nat} {placed : Placed} :
    (placed.sprite? row).bind Overlay.cell? = placed.item.cell? := by
  rcases placed with ⟨item, pen⟩
  cases item <;> rfl

theorem cell?_of_isLink {overlay : Overlay} (link : overlay.isLink = true) :
    overlay.cell? = none := by
  rcases overlay with ⟨kind, x, row⟩
  cases kind with
  | link index => rfl
  | emoji cell => cases link

theorem filterMap_cell?_sprites (index : Nat) (row : List Placed) :
    (row.filterMap (Placed.sprite? index)).filterMap Overlay.cell? =
      row.filterMap fun placed => placed.item.cell? := by
  rw [List.filterMap_filterMap]
  exact List.filterMap_congr fun placed _ => bind_cell?_sprite?

theorem filterMap_cell?_spritesOf (laid : List (List Placed)) :
    (spritesOf laid).filterMap Overlay.cell? =
      laid.flatten.filterMap fun placed => placed.item.cell? := by
  induction laid using List.reverseRecOn with
  | nil => rfl
  | append_singleton laid row ih =>
      rw [spritesOf_concat, List.filterMap_append, ih, filterMap_cell?_sprites,
        List.flatten_concat, List.filterMap_append]

theorem filterMap_cellsIn_sprites (index other : Nat) (row : List Placed) :
    ((row.filterMap (Placed.sprite? index)).filterMap fun overlay =>
        if overlay.row = other then overlay.cell? else none) =
      if index = other then row.filterMap fun placed => placed.item.cell? else [] := by
  rw [List.filterMap_filterMap]
  split
  case isTrue same =>
    refine List.filterMap_congr fun placed _ => ?_
    rcases placed with ⟨item, pen⟩
    cases item with
    | glyph char => rfl
    | emoji cell => exact if_pos same
  case isFalse differ =>
    refine List.filterMap_eq_nil_iff.mpr fun placed _ => ?_
    rcases placed with ⟨item, pen⟩
    cases item with
    | glyph char => rfl
    | emoji cell => exact if_neg differ

/-- The emoji over a row are those among its items. -/
theorem filterMap_cellsIn_spritesOf (laid : List (List Placed)) (index : Nat) :
    ((spritesOf laid).filterMap fun overlay =>
        if overlay.row = index then overlay.cell? else none) =
      (laid[index]?.getD []).filterMap fun placed => placed.item.cell? := by
  induction laid using List.reverseRecOn with
  | nil => rfl
  | append_singleton laid row ih =>
      rw [spritesOf_concat, List.filterMap_append, ih, filterMap_cellsIn_sprites]
      rcases Nat.lt_trichotomy index laid.length with inside | rfl | beyond
      · rw [List.getElem?_append_left inside, if_neg (Nat.ne_of_gt inside), List.append_nil]
      · rw [List.getElem?_concat_length, List.getElem?_eq_none (Nat.le_refl _), if_pos rfl]
        rfl
      · have above : (laid ++ [row]).length ≤ index := by
          rw [List.length_append]
          exact beyond
        rw [List.getElem?_eq_none above, List.getElem?_eq_none (Nat.le_of_lt beyond),
          if_neg (Nat.ne_of_lt beyond)]
        rfl

namespace Displays

variable {face : Face} {layout : Layout} {laid : List (List Placed)}

/-- What does not regard links is seen of the emoji alone. -/
theorem filterMap_overlays (displays : layout.Displays face laid) {α : Type}
    {view : Overlay → Option α} (blind : ∀ overlay, overlay.isLink = true → view overlay = none) :
    layout.overlays.toList.filterMap view = (spritesOf laid).filterMap view := by
  rw [← displays.sprites, List.filterMap_filter]
  refine List.filterMap_congr fun overlay _ => ?_
  cases link : overlay.isLink with
  | true => exact blind overlay link
  | false => rfl

theorem shownIn_eq (displays : layout.Displays face laid) {index : Nat} {row : List Placed}
    (found : laid[index]? = some row) :
    layout.shownIn index = contentOf row := by
  have rowFound : layout.rows[index]? = some (rowOf face row) := by
    rw [← Array.getElem?_toList, displays.rows, List.getElem?_map, found, Option.map_some]
  rw [shownIn, rowFound, Option.map_some, Option.getD_some, rowOf, map_char_glyphs, contentOf]
  refine congrArg (Prod.mk _) ?_
  rw [displays.filterMap_overlays fun overlay link => by rw [cell?_of_isLink link, ite_self],
    filterMap_cellsIn_spritesOf, found, Option.getD_some]

/-- A layout shows the items of its rows. -/
theorem shown_eq (displays : layout.Displays face laid) :
    layout.shown = laid.map contentOf := by
  have size : layout.rows.size = laid.length := by
    rw [← Array.length_toList, displays.rows, List.length_map]
  refine List.ext_getElem (by simp [shown, size]) fun index inside _ => ?_
  simp only [shown, List.getElem_map, List.getElem_range]
  exact displays.shownIn_eq (List.getElem?_eq_getElem _)

theorem cells_eq (displays : layout.Displays face laid) :
    layout.overlays.toList.filterMap Overlay.cell? =
      laid.flatten.filterMap fun placed => placed.item.cell? := by
  rw [displays.filterMap_overlays fun overlay link => cell?_of_isLink link,
    filterMap_cell?_spritesOf]

end Displays

/-- The rows of a line show its items. -/
theorem Wrapped.showsItems {face : Face} {right : Float32} {rows : List (List Placed)}
    (wrapped : Wrapped face right rows) :
    ShowsItems (rows.map contentOf) (rows.flatten.map Placed.item) where
  present none := wrapped.present (List.map_eq_nil_iff.mp none)
  chars := by
    rw [List.flatMap_map, List.filterMap_map, List.filterMap_flatten]
    rfl
  cells := by
    rw [List.flatMap_map, List.filterMap_map, List.filterMap_flatten]
    rfl

theorem showsLines_whole (face : Face) (table : Emoji.Table) (text : String)
    (width linkBase : Nat) :
    (whole face table text width linkBase).ShowsLines
      ((sourceLines (expandTabs text.toList)).map fun line =>
        (tokens table line).map Token.item) := by
  have displays := displays_whole face table text width linkBase
  rw [← items_wrappedLines face table text width]
  constructor
  case lines =>
    refine ⟨_, (List.map_flatten.symm).trans displays.shown_eq.symm, ?_⟩
    rw [List.forall₂_map_left_iff, List.forall₂_map_right_iff, List.forall₂_same]
    exact fun rows member => (wrapped_of_mem_wrappedLines member).showsItems
  case cells =>
    have items : ((wrappedLines face table text width).map fun rows =>
        rows.flatten.map Placed.item).flatten =
          (wrappedLines face table text width).flatten.flatten.map Placed.item := by
      rw [List.flatten_flatten, List.map_flatten, List.map_map]
      rfl
    rw [displays.cells_eq, items, List.filterMap_map]
    rfl

/-- The first links that begin with one of the items of a text. -/
def linksOf (text : String) (linkBase : Nat) (contents : List (List (Nat × Item))) : List String :=
  (((positions contents).filter fun place => beginsAddress (restAt text place.1 place.2.1)).take
    (maxLinks - linkBase)).map fun place => runOf (restAt text place.1 place.2.1)

/-- The links of a layout are those of its text, wherever its rows are broken. -/
theorem links_whole_eq (face : Face) (table : Emoji.Table) (text : String)
    (width linkBase : Nat) :
    (whole face table text width linkBase).links.toList =
      linksOf text linkBase
        ((sourceLines (expandTabs text.toList)).map (itemsFrom table 0)) := by
  rw [links_whole, linksOf, ← position_spots face table text width, List.filter_map,
    ← List.map_take, List.map_map]
  rfl

/--
For each text there is one list of what stands in its source lines.  This is what a layout shows
before it is cut, for all faces and widths, and its links are those of this list.
-/
theorem contents_conserved (clusters : List (List Char)) (text : String) :
    ∃ contents : List (List (Nat × Item)),
      (∀ read, ReadsText clusters text read ↔ read = contents) ∧
      ∀ (face : Face) (width linkBase : Nat),
        let layout := whole face (Emoji.Table.ofSequences clusters) text width linkBase
        layout.ShowsLines (contents.map fun items => items.map Prod.snd) ∧
        layout.links.toList = linksOf text linkBase contents ∧
        layout.overlays.toList.filterMap Overlay.index? =
          List.range' linkBase layout.links.size := by
  let table := Emoji.Table.ofSequences clusters
  refine ⟨_, fun read => readsText_iff, fun face width linkBase => ⟨?_, ?_, ?_⟩⟩
  · have items : (fun items => items.map Prod.snd) ∘ itemsFrom table 0 =
        fun line => (tokens table line).map Token.item :=
      funext (map_snd_itemsFrom table 0)
    rw [List.map_map, items]
    exact showsLines_whole face table text width linkBase
  · exact links_whole_eq face table text width linkBase
  · exact (shows_whole face table text width linkBase).indices

end FrameChat.Layout
