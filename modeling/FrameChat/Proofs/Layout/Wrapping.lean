import FrameChat.Proofs.Layout.Contents
import FrameChat.Proofs.Layout.Reading
import Mathlib.Data.List.Chain

/-!
# How lines are wrapped

The items of a source line are set one behind the other.  One that would end beyond the right
edge begins a further row, unless its row has no other item.  `wrap` computes the rows of a
line from its items alone, and `Wrapped` says what holds of them: no row could have taken the
first item of the next one, and no row reaches beyond the right edge, except with one item
that is too wide for a row.

A layout displays the rows into which the lines of its text are wrapped (`displays_whole`).

* `wrapped_wrap`, `items_wrap`: the rows of a line.
* `wrapped_greedily`: the rows of a layout before it is cut.
-/

namespace FrameChat.Layout

/-- The character that an item shows. -/
def Item.char? : Item → Option Char
  | .glyph char => some char
  | .emoji _ => none

/-- The sprite that an item shows. -/
def Item.cell? : Item → Option Emoji.Cell
  | .glyph _ => none
  | .emoji cell => some cell

/-- An item and the pen at which it is set. -/
structure Placed where
  item : Item
  pen : Float32

namespace Placed

/-- Where an item ends. -/
def stop (face : Face) (placed : Placed) : Float32 :=
  placed.pen + Setting.advanceOf face placed.item

/-- The pen of an item behind this one; two characters are kerned. -/
def penBehind (face : Face) (placed : Placed) (next : Item) : Float32 :=
  match placed.item, next with
  | .glyph previous, .glyph char => placed.stop face + face.kern previous char
  | _, _ => placed.stop face

def glyph? (placed : Placed) : Option Face.PlacedGlyph :=
  placed.item.char?.map (⟨·, placed.pen⟩)

/-- The overlay of an emoji that is set in a row. -/
def sprite? (row : Nat) (placed : Placed) : Option Overlay :=
  placed.item.cell?.map fun cell => ⟨.emoji cell, placed.pen, row⟩

end Placed

/-! ## Rows of items -/

section Rows

variable (face : Face) (right : Float32)

/-- Where a row ends: with its last item, or at the left edge. -/
def stopOf (row : List Placed) : Float32 :=
  match row.getLast? with
  | none => contentLeft
  | some last => last.stop face

/-- The pen of an item that stays in a row. -/
def penOf (row : List Placed) (item : Item) : Float32 :=
  match row.getLast? with
  | none => contentLeft
  | some last => last.penBehind face item

/-- The row of a layout in which items are set. -/
def rowOf (row : List Placed) : Row :=
  ⟨(row.filterMap Placed.glyph?).toArray, stopOf face row - contentLeft⟩

/-- The emoji of rows, each over its row. -/
def spritesOf (rows : List (List Placed)) : List Overlay :=
  rows.zipIdx.flatMap fun entry => entry.1.filterMap (Placed.sprite? entry.2)

/-- Whether a row has items and no room for another one. -/
def isFull (row : List Placed) (item : Item) : Bool :=
  !row.isEmpty && decide (right < penOf face row item + Setting.advanceOf face item)

/-- The rows of the items of a line, some of which were set in the first row already. -/
def wrap (row : List Placed) : List Item → List (List Placed)
  | [] => [row]
  | item :: rest =>
      if isFull face right row item then row :: wrap [⟨item, contentLeft⟩] rest
      else wrap (row ++ [⟨item, penOf face row item⟩]) rest

/-- An item stands in its row where the one before it lets it, and ends within the right edge. -/
structure Follows (earlier later : Placed) : Prop where
  pen : later.pen = earlier.penBehind face later.item
  fits : ¬ right < later.stop face

/-- Behind the last item of a row, the first one of the next row would end beyond the right edge. -/
def BreaksBefore (upper lower : List Placed) : Prop :=
  ∃ last ∈ upper.getLast?, ∃ first ∈ lower.head?,
    right < last.penBehind face first.item + Setting.advanceOf face first.item

/-- The rows of a line are filled one after the other. -/
structure Wrapped (rows : List (List Placed)) : Prop where
  present : rows ≠ []
  starts : ∀ row ∈ rows, ∀ first ∈ row.head?, first.pen = contentLeft
  follows : ∀ row ∈ rows, row.IsChain (Follows face right)
  breaks : rows.IsChain (BreaksBefore face right)

end Rows

section Wrapping

variable {face : Face} {right : Float32}

@[simp]
theorem stopOf_nil : stopOf face [] = contentLeft := rfl

@[simp]
theorem stopOf_concat (row : List Placed) (placed : Placed) :
    stopOf face (row ++ [placed]) = placed.stop face := by
  rw [stopOf, List.getLast?_concat]

@[simp]
theorem penOf_nil (item : Item) : penOf face [] item = contentLeft := rfl

@[simp]
theorem penOf_concat (row : List Placed) (placed : Placed) (item : Item) :
    penOf face (row ++ [placed]) item = placed.penBehind face item := by
  rw [penOf, List.getLast?_concat]

theorem spritesOf_concat (rows : List (List Placed)) (row : List Placed) :
    spritesOf (rows ++ [row]) =
      spritesOf rows ++ row.filterMap (Placed.sprite? rows.length) := by
  rw [spritesOf, List.zipIdx_append, List.flatMap_append, Nat.zero_add]
  exact congrArg _ (List.append_nil _)

/-- There are no emoji over a row without items. -/
@[simp]
theorem spritesOf_concat_nil (rows : List (List Placed)) :
    spritesOf (rows ++ [[]]) = spritesOf rows := by
  rw [spritesOf_concat, List.filterMap_nil, List.append_nil]

/-- The first row of a line goes on with what was set in it. -/
theorem exists_head?_wrap (row : List Placed) (items : List Item) :
    ∃ more, (wrap face right row items).head? = some (row ++ more) := by
  fun_induction wrap face right row items with
  | case1 row => exact ⟨[], by rw [List.append_nil, List.head?_cons]⟩
  | case2 row item rest full ih => exact ⟨[], by rw [List.append_nil, List.head?_cons]⟩
  | case3 row item rest room ih =>
      rcases ih with ⟨more, head⟩
      rw [List.append_assoc] at head
      exact ⟨_, head⟩

/-- The rows of a line have its items, in order. -/
theorem items_wrap (row : List Placed) (items : List Item) :
    (wrap face right row items).flatten.map Placed.item = row.map Placed.item ++ items := by
  fun_induction wrap face right row items with
  | case1 row => rw [List.flatten_singleton, List.append_nil]
  | case2 row item rest full ih =>
      rw [List.flatten_cons, List.map_append, ih]
      rfl
  | case3 row item rest room ih =>
      rw [ih, List.map_append, List.append_assoc]
      rfl

theorem isFull_eq_true_iff {row : List Placed} {item : Item} :
    isFull face right row item = true ↔
      ∃ last ∈ row.getLast?, right < last.penBehind face item + Setting.advanceOf face item := by
  rcases List.eq_nil_or_concat' row with rfl | ⟨front, last, rfl⟩
  · simp [isFull]
  · simp [isFull]

/-- A row with a further item that it has room for. -/
theorem follows_concat {row : List Placed} {item : Item}
    (follows : row.IsChain (Follows face right))
    (room : ¬ isFull face right row item = true) :
    (row ++ [Placed.mk item (penOf face row item)]).IsChain (Follows face right) := by
  refine follows.append (.singleton _) ?_
  intro last isLast placed isNext
  obtain rfl := Option.some.inj isNext
  have pen : penOf face row item = last.penBehind face item := by
    rw [penOf, Option.mem_def.mp isLast]
  constructor
  case pen => exact pen
  case fits =>
    intro beyond
    rw [Placed.stop, pen] at beyond
    exact room (isFull_eq_true_iff.mpr ⟨last, isLast, beyond⟩)

theorem starts_concat {row : List Placed} {item : Item}
    (starts : ∀ first ∈ row.head?, first.pen = contentLeft) :
    ∀ first ∈ (row ++ [Placed.mk item (penOf face row item)]).head?, first.pen = contentLeft := by
  cases row with
  | nil =>
      rintro first isFirst
      obtain rfl := Option.some.inj isFirst
      rfl
  | cons head rest => exact starts

/--
Wrapping keeps that the row being set begins at the left edge and that its items follow one
another, and so all rows of a line are filled.
-/
theorem wrapped_wrap {row : List Placed} (items : List Item)
    (starts : ∀ first ∈ row.head?, first.pen = contentLeft)
    (follows : row.IsChain (Follows face right)) :
    Wrapped face right (wrap face right row items) := by
  fun_induction wrap face right row items with
  | case1 row =>
      exact ⟨List.cons_ne_nil _ _, List.forall_mem_singleton.mpr starts,
        List.forall_mem_singleton.mpr follows, .singleton _⟩
  | case2 row item rest full ih =>
      have atLeft : ∀ first ∈ [Placed.mk item contentLeft].head?, first.pen = contentLeft := by
        intro first isFirst
        rw [← Option.some.inj isFirst]
      have later := ih atLeft (.singleton _)
      rcases isFull_eq_true_iff.mp full with ⟨last, isLast, beyond⟩
      refine ⟨List.cons_ne_nil _ _, List.forall_mem_cons.mpr ⟨starts, later.starts⟩,
        List.forall_mem_cons.mpr ⟨follows, later.follows⟩, later.breaks.cons ?_⟩
      intro lower isLower
      have head : ∃ more, (wrap face right [⟨item, contentLeft⟩] rest).head? =
          some ([⟨item, contentLeft⟩] ++ more) := exists_head?_wrap _ rest
      rcases head with ⟨more, head⟩
      rw [head] at isLower
      obtain rfl := Option.some.inj isLower
      exact ⟨last, isLast, Placed.mk item contentLeft, rfl, beyond⟩
  | case3 row item rest room ih =>
      exact ih (starts_concat starts) (follows_concat follows room)

/-- An item that ends beyond the right edge at the end of a row is alone in it. -/
theorem Wrapped.eq_singleton {rows : List (List Placed)} (wrapped : Wrapped face right rows)
    {row : List Placed} (member : row ∈ rows) {last : Placed} (isLast : last ∈ row.getLast?)
    (beyond : right < last.stop face) : row = [last] := by
  rcases List.eq_nil_or_concat' row with rfl | ⟨front, other, rfl⟩
  · cases isLast
  · rw [List.getLast?_concat] at isLast
    obtain rfl := Option.some.inj isLast
    rcases List.eq_nil_or_concat' front with rfl | ⟨before, earlier, rfl⟩
    · rfl
    · have chain := wrapped.follows _ member
      rw [List.append_assoc] at chain
      exact absurd beyond (List.isChain_append_cons_cons.mp chain).2.1.fits

end Wrapping

/-! ## Settings and layouts -/

/-- The rows of a layout, and the emoji over them, are those of rows of items. -/
structure Displays (face : Face) (layout : Layout) (laid : List (List Placed)) : Prop where
  rows : layout.rows.toList = laid.map (rowOf face)
  sprites : layout.overlays.toList.filter (fun overlay => !overlay.isLink) = spritesOf laid

namespace Setting

/-- What a setting shows: rows of items that are finished, and items in the row being set. -/
structure Fills (face : Face) (setting : Setting) (laid : List (List Placed)) (row : List Placed) :
    Prop where
  rows : setting.rows.toList = laid.map (rowOf face)
  glyphs : setting.glyphs.toList = row.filterMap Placed.glyph?
  sprites : setting.overlays.toList.filter (fun overlay => !overlay.isLink) =
    spritesOf (laid ++ [row])

/-- Between two items the pen stands behind the last item of the row being set. -/
structure Sets (face : Face) (setting : Setting) (laid : List (List Placed)) (row : List Placed) :
    Prop extends setting.Fills face laid row where
  occupied : setting.occupied = !row.isEmpty
  stop : setting.x = stopOf face row
  previous : setting.previous = row.getLast?.bind fun last => last.item.char?

variable {face : Face} {right : Float32} {setting : Setting} {laid : List (List Placed)}
  {row : List Placed}

namespace Fills

theorem size_rows (fills : setting.Fills face laid row) : setting.rows.size = laid.length := by
  rw [← Array.length_toList, fills.rows, List.length_map]

theorem number (fills : setting.Fills face laid row) (linkBase index : Nat) (pen : Float32)
    (token : Token) : (setting.number linkBase index pen token.link).Fills face laid row := by
  -- Of a spot, numbering a link regards the row, the pen and the link only.
  let spot : Spot := ⟨0, 0, token, index, pen⟩
  constructor
  case rows => exact (congrArg Array.toList (rows_number setting linkBase spot)).trans fills.rows
  case glyphs =>
    exact (congrArg Array.toList (glyphs_number setting linkBase spot)).trans fills.glyphs
  case sprites =>
    have overlays := overlays_number setting linkBase spot
    rw [overlays, List.filter_append, filter_not_isLink_badge, List.append_nil, fills.sprites]

theorem put (fills : setting.Fills face laid row) (pen : Float32) (item : Item) :
    (setting.put face laid.length pen item).Sets face laid (row ++ [⟨item, pen⟩]) := by
  have more : spritesOf (laid ++ [row ++ [⟨item, pen⟩]]) =
      spritesOf (laid ++ [row]) ++ (Placed.sprite? laid.length ⟨item, pen⟩).toList := by
    rw [spritesOf_concat, List.filterMap_append, spritesOf_concat, List.append_assoc]
    cases item <;> rfl
  constructor
  case occupied => cases item <;> simp [Setting.put]
  case stop =>
    rw [stopOf_concat]
    cases item <;> rfl
  case previous =>
    rw [List.getLast?_concat]
    cases item <;> rfl
  case toFills =>
    constructor
    case rows => cases item <;> exact fills.rows
    case glyphs =>
      rw [List.filterMap_append, ← fills.glyphs]
      cases item with
      | glyph char => exact Array.toList_push
      | emoji cell => exact (List.append_nil _).symm
    case sprites =>
      rw [more, ← fills.sprites]
      cases item with
      | glyph char => exact (List.append_nil _).symm
      | emoji cell =>
          refine (congrArg (List.filter _) Array.toList_push).trans ?_
          rw [List.filter_append]
          rfl

/-- A token that is put into the row being set. -/
theorem settle (fills : setting.Fills face laid row) (linkBase : Nat) (pen : Float32)
    (token : Token) :
    ((setting.number linkBase setting.rows.size pen token.link).put face setting.rows.size pen
      token.item).Sets face laid (row ++ [⟨token.item, pen⟩]) := by
  rw [fills.size_rows]
  exact (fills.number linkBase laid.length pen token).put pen token.item

end Fills

namespace Sets

theorem finishRow (sets : setting.Sets face laid row) :
    setting.finishRow.Fills face (laid ++ [row]) [] where
  rows := by
    show (setting.rows.push _).toList = _
    rw [Array.toList_push, sets.rows, List.map_append, sets.stop, List.map_singleton, rowOf,
      ← sets.glyphs]
  glyphs := rfl
  sprites := by
    rw [spritesOf_concat_nil]
    exact sets.sprites

theorem penFor_eq (sets : setting.Sets face laid row) (item : Item) :
    setting.penFor face item = penOf face row item := by
  have stop := sets.stop
  have previous := sets.previous
  rcases List.eq_nil_or_concat' row with rfl | ⟨front, last, rfl⟩
  · rw [stopOf_nil] at stop
    rw [penOf_nil]
    cases item with
    | emoji cell => exact stop
    | glyph char =>
        rw [penFor, previous]
        exact stop
  · rw [List.getLast?_concat] at previous
    rw [stopOf_concat] at stop
    rw [penOf_concat]
    rcases last with ⟨shown, pen⟩
    cases item with
    | emoji cell => cases shown <;> exact stop
    | glyph char =>
        rw [penFor, previous, stop]
        cases shown <;> rfl

theorem breaksBefore_eq (sets : setting.Sets face laid row) (item : Item) :
    setting.breaksBefore face right item = isFull face right row item := by
  rw [breaksBefore, sets.occupied, sets.penFor_eq, isFull]

theorem place_of_full (sets : setting.Sets face laid row) (linkBase : Nat) {token : Token}
    (full : isFull face right row token.item = true) :
    (setting.place face right linkBase token).Sets face (laid ++ [row])
      [⟨token.item, contentLeft⟩] := by
  rw [← sets.breaksBefore_eq] at full
  rw [place_eq, roomFor, nextPen, if_pos full, if_pos full]
  exact sets.finishRow.settle linkBase contentLeft token

theorem place_of_room (sets : setting.Sets face laid row) (linkBase : Nat) {token : Token}
    (room : ¬ isFull face right row token.item = true) :
    (setting.place face right linkBase token).Sets face laid
      (row ++ [⟨token.item, penOf face row token.item⟩]) := by
  rw [← sets.breaksBefore_eq] at room
  rw [place_eq, roomFor, nextPen, if_neg room, if_neg room, sets.penFor_eq]
  exact sets.toFills.settle linkBase (penOf face row token.item) token

/-- When a line is set, its rows are those into which its items are wrapped. -/
theorem foldl_place (sets : setting.Sets face laid row) (linkBase : Nat) (tokens : List Token) :
    (tokens.foldl (Setting.place face right linkBase) setting).finishRow.layout.Displays face
      (laid ++ wrap face right row (tokens.map Token.item)) := by
  induction tokens generalizing setting laid row with
  | nil =>
      have finished := sets.finishRow
      exact ⟨finished.rows, finished.sprites.trans (spritesOf_concat_nil _)⟩
  | cons token rest ih =>
      rw [List.map_cons, wrap, List.foldl_cons]
      split
      case isTrue full =>
        have later := ih (sets.place_of_full linkBase full)
        rwa [List.append_assoc] at later
      case isFalse room => exact ih (sets.place_of_room linkBase room)

end Sets

end Setting

namespace Displays

variable {face : Face} {setting : Setting} {laid : List (List Placed)}

theorem beginLine (displays : setting.layout.Displays face laid) :
    setting.beginLine.Sets face laid [] where
  rows := displays.rows
  glyphs := rfl
  sprites := by
    rw [spritesOf_concat_nil]
    exact displays.sprites
  occupied := rfl
  stop := rfl
  previous := rfl

/-- The rows of a source line. -/
theorem setLine (displays : setting.layout.Displays face laid) (table : Emoji.Table)
    (right : Float32) (linkBase : Nat) (line : List Char) :
    (setting.setLine face table right linkBase line).layout.Displays face
      (laid ++ wrap face right [] ((tokens table line).map Token.item)) :=
  displays.beginLine.foldl_place linkBase (tokens table line)

theorem setLines (displays : setting.layout.Displays face laid) (table : Emoji.Table)
    (right : Float32) (linkBase : Nat) (lines : List (List Char)) :
    (lines.foldl (Setting.setLine face table right linkBase) setting).layout.Displays face
      (laid ++ (lines.map fun line =>
        wrap face right [] ((tokens table line).map Token.item)).flatten) := by
  induction lines generalizing setting laid with
  | nil => rwa [List.map_nil, List.flatten_nil, List.append_nil]
  | cons line rest ih =>
      have more := ih (displays.setLine table right linkBase line)
      rwa [List.append_assoc] at more

end Displays

/-- The rows into which the source lines of a text are wrapped. -/
def wrappedLines (face : Face) (table : Emoji.Table) (text : String) (width : Nat) :
    List (List (List Placed)) :=
  (sourceLines (expandTabs text.toList)).map fun line =>
    wrap face (rightEdge width) [] ((tokens table line).map Token.item)

/-- Before it is cut, a layout displays the rows of all source lines. -/
theorem displays_whole (face : Face) (table : Emoji.Table) (text : String) (width linkBase : Nat) :
    (whole face table text width linkBase).Displays face
      (wrappedLines face table text width).flatten := by
  have empty : Setting.start.layout.Displays face [] := ⟨rfl, rfl⟩
  exact empty.setLines table (rightEdge width) linkBase (sourceLines (expandTabs text.toList))

/-- The rows of a source line have its items. -/
theorem items_wrappedLines (face : Face) (table : Emoji.Table) (text : String) (width : Nat) :
    (wrappedLines face table text width).map (fun rows => rows.flatten.map Placed.item) =
      (sourceLines (expandTabs text.toList)).map fun line =>
        (tokens table line).map Token.item := by
  rw [wrappedLines, List.map_map]
  exact List.map_congr_left fun line _ => items_wrap [] _

theorem wrapped_of_mem_wrappedLines {face : Face} {table : Emoji.Table} {text : String}
    {width : Nat} {rows : List (List Placed)} (member : rows ∈ wrappedLines face table text width) :
    Wrapped face (rightEdge width) rows := by
  rcases List.mem_map.mp member with ⟨line, -, rfl⟩
  exact wrapped_wrap _ (fun first isFirst => nomatch isFirst) .nil

/--
Every source line has rows of its own, in which its items stand in order.  Each item stands where
the one before it lets it.  A row is broken where the next item would end beyond the right edge,
and an item that ends there is alone in its row.
-/
theorem wrapped_greedily (clusters : List (List Char)) (face : Face) (text : String)
    (width linkBase : Nat) :
    ∃ contents : List (List (Nat × Item)), ReadsText clusters text contents ∧
      ∃ lines : List (List (List Placed)),
        lines.map (fun rows => rows.flatten.map Placed.item) =
          contents.map (fun items => items.map Prod.snd) ∧
        (whole face (Emoji.Table.ofSequences clusters) text width linkBase).Displays face
          lines.flatten ∧
        ∀ rows ∈ lines, Wrapped face (rightEdge width) rows ∧
          ∀ row ∈ rows, ∀ last ∈ row.getLast?, rightEdge width < last.stop face → row = [last] := by
  let table := Emoji.Table.ofSequences clusters
  refine ⟨_, readsText_iff.mpr rfl, wrappedLines face table text width, ?_,
    displays_whole face table text width linkBase, ?_⟩
  · rw [items_wrappedLines, List.map_map]
    exact List.map_congr_left fun line _ => (map_snd_itemsFrom table 0 line).symm
  · intro rows member
    have wrapped := wrapped_of_mem_wrappedLines member
    exact ⟨wrapped, fun row inRows last => wrapped.eq_singleton inRows⟩

end FrameChat.Layout
