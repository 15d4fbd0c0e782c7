import FrameChat.Proofs.Layout.Numbering
import FrameChat.Proofs.Picture.Badges

/-!
# The lines of a picture

What a picture shows of a message stands in lines: one for a notice of presence, and for a
written message its header, the rows of its layout and the marker below them.  `textLines` lists
the lines of a picture from top to bottom, so that those of an older message come before those
of a newer one.

* `Stacked.apart`, `Stacked.baseline_le`: the lines keep their distance from one another, and
  stay above the pen at which the stack was begun.
* `exists_textLine_of_mem_glyphs`, `mem_glyphs_of_textLine`: the lines are what is drawn.
-/

namespace FrameChat

namespace Sheet

/-! ## Sheets one after the other -/

@[simp]
theorem append_empty (sheet : Sheet) : sheet ++ empty = sheet := by
  rcases sheet with ⟨marks, faulted⟩
  show append _ _ = _
  cases faulted <;> simp [append, empty]

theorem append_assoc (first second third : Sheet) :
    first ++ second ++ third = first ++ (second ++ third) := by
  rcases first with ⟨marks, faulted⟩
  rcases second with ⟨others, stopped⟩
  show append (append _ _) _ = append _ (append _ _)
  cases faulted <;> cases stopped <;> simp [append]

theorem concat_append (first second : List Sheet) :
    concat (first ++ second) = concat first ++ concat second := by
  induction first with
  | nil => rfl
  | cons sheet rest ih => exact (congrArg (sheet ++ ·) ih).trans (append_assoc ..).symm

/-! ## Characters on a sheet -/

theorem mem_glyphs_append {first second : Sheet} {glyph : DrawnGlyph} :
    glyph ∈ (first ++ second).glyphs ↔
      glyph ∈ first.glyphs ∨ first.faulted = false ∧ glyph ∈ second.glyphs := by
  cases sound : first.faulted with
  | false => simp [glyphs, marks_append sound]
  | true =>
      have cut : first ++ second = first := by
        show Sheet.append first second = first
        rw [Sheet.append, sound]
        rfl
      simp [cut]

theorem mem_glyphs_of_concat {sheets : List Sheet} {glyph : DrawnGlyph}
    (member : glyph ∈ (concat sheets).glyphs) : ∃ sheet ∈ sheets, glyph ∈ sheet.glyphs := by
  induction sheets with
  | nil => cases member
  | cons sheet rest ih =>
      rcases mem_glyphs_append.mp member with here | ⟨-, later⟩
      · exact ⟨sheet, List.mem_cons_self, here⟩
      · rcases ih later with ⟨other, listed, there⟩
        exact ⟨other, List.mem_cons_of_mem sheet listed, there⟩

theorem mem_glyphs_concat {sheets : List Sheet} {sheet : Sheet} {glyph : DrawnGlyph}
    (sound : (concat sheets).faulted = false) (listed : sheet ∈ sheets)
    (member : glyph ∈ sheet.glyphs) : glyph ∈ (concat sheets).glyphs := by
  induction sheets with
  | nil => cases listed
  | cons first rest ih =>
      have sounds := (sound_append_iff first (concat rest)).mp sound
      refine mem_glyphs_append.mpr ?_
      rcases List.mem_cons.mp listed with rfl | later
      · exact .inl member
      · exact .inr ⟨sounds.1, ih sounds.2 later⟩

theorem sound_of_mem_concat {sheets : List Sheet} (sound : (concat sheets).faulted = false)
    {sheet : Sheet} (listed : sheet ∈ sheets) : sheet.faulted = false := by
  induction sheets with
  | nil => cases listed
  | cons first rest ih =>
      have sounds := (sound_append_iff first (concat rest)).mp sound
      rcases List.mem_cons.mp listed with rfl | later
      · exact sounds.1
      · exact ih sounds.2 later

theorem mem_glyphs_of_ofFitting {sheet : Option Sheet} {glyph : DrawnGlyph}
    (member : glyph ∈ (ofFitting sheet).glyphs) :
    ∃ drawn, sheet = some drawn ∧ glyph ∈ drawn.glyphs := by
  cases sheet with
  | none => cases member
  | some drawn => exact ⟨drawn, rfl, member⟩

theorem of_mem_glyphs_ofGlyph {face : Face} {baseline : Int} {color : Color}
    {placed : Face.PlacedGlyph} {glyph : DrawnGlyph}
    (member : glyph ∈ (ofGlyph face baseline color placed).glyphs) :
    glyph.baseline = baseline ∧ glyph.color = color := by
  rw [ofGlyph] at member
  split at member <;> obtain rfl := List.mem_singleton.mp member <;> exact ⟨rfl, rfl⟩

/-- A text is written on its baseline, in its colour. -/
theorem of_mem_glyphs_ofText {face : Face} {pen : Float32} {baseline : Int} {text : String}
    {color : Color} {glyph : DrawnGlyph}
    (member : glyph ∈ (ofText face pen baseline text color).1.glyphs) :
    glyph.baseline = baseline ∧ glyph.color = color := by
  rcases mem_glyphs_of_concat member with ⟨sheet, listed, inSheet⟩
  rcases List.mem_map.mp listed with ⟨placed, -, rfl⟩
  exact of_mem_glyphs_ofGlyph inSheet

end Sheet

namespace Composition

/-! ## Lines and baselines -/

/-- What is written in one line of a picture. -/
inductive Writing where
  | presence (author tail : String)
  | header (author stamp : String)
  | row (row : Layout.Row)
  | marker (marker : String)

/-- What is written on a baseline. -/
structure TextLine where
  writing : Writing
  baseline : Int

/-- The rows of a layout from a baseline on, and its marker. -/
def bodyLines (layout : Layout) (top : Int) : List TextLine :=
  (layout.rows.toList.zipIdx.map fun (row, position) =>
      ⟨.row row, top + position * lineHeight⟩) ++
    layout.marker.toList.map fun marker => ⟨.marker marker, top + layout.rows.size * lineHeight⟩

/-- The lines of a block, from top to bottom. -/
def Block.textLines : Block → List TextLine
  | .presence baseline author tail => [⟨.presence author tail, baseline⟩]
  | .written top _ layout author stamp =>
      ⟨.header author stamp, top - lineHeight⟩ :: bodyLines layout top

/-- The lines of a stack of blocks, from top to bottom. -/
def textLines (blocks : List Block) : List TextLine :=
  blocks.reverse.flatMap Block.textLines

@[simp]
theorem textLines_cons (block : Block) (older : List Block) :
    textLines (block :: older) = textLines older ++ block.textLines := by
  simp [textLines]

theorem mem_textLines {blocks : List Block} {line : TextLine} :
    line ∈ textLines blocks ↔ ∃ block ∈ blocks, line ∈ block.textLines := by
  simp [textLines]

/-! ## The lines of one block -/

/-- The baseline of the uppermost line of a block. -/
def Block.uppermost : Block → Int
  | .presence baseline _ _ => baseline
  | .written top _ _ _ _ => top - lineHeight

/-- The lines of a block below its uppermost one. -/
def Block.lower : Block → Nat
  | .presence .. => 0
  | .written _ _ layout _ _ => layout.rowCount

/-- The pen at which a block was begun. -/
def Block.pen (block : Block) : Int :=
  block.uppermost + block.lower * lineHeight

/-- The pen that a block leaves for the next one. -/
def Block.next (block : Block) : Int :=
  block.uppermost - messageGap

theorem map_baseline_bodyLines (layout : Layout) (top : Int) :
    (bodyLines layout top).map TextLine.baseline =
      (List.range layout.rowCount).map fun position : Nat => top + position * lineHeight := by
  have rows : layout.rows.toList.zipIdx.map (fun entry => top + entry.2 * lineHeight) =
      (List.range layout.rows.size).map fun position : Nat => top + position * lineHeight := by
    have positions : layout.rows.toList.zipIdx.map Prod.snd = List.range layout.rows.size := by
      rw [List.zipIdx_map_snd, Array.length_toList, List.range_eq_range']
    rw [← positions, List.map_map]
    rfl
  simp only [bodyLines, List.map_append, List.map_map, Function.comp_def, Layout.rowCount, rows]
  cases layout.marker with
  | none => simp
  | some marker => simp [List.range_succ]

/-- The lines of a block follow one another at the distance of baselines. -/
theorem map_baseline_textLines (block : Block) :
    block.textLines.map TextLine.baseline =
      (List.range (block.lower + 1)).map fun position : Nat =>
        block.uppermost + position * lineHeight := by
  cases block with
  | presence baseline author tail => simp [Block.textLines, Block.lower, Block.uppermost]
  | written top banded layout author stamp =>
      have distance (position : Nat) : top - lineHeight + (position + 1 : Nat) * lineHeight =
          top + position * (lineHeight : Int) := by
        rw [lineHeight]
        omega
      simp only [Block.textLines, Block.lower, Block.uppermost, List.map_cons,
        map_baseline_bodyLines, List.map_map, List.range_succ_eq_map, Function.comp_def,
        Nat.succ_eq_add_one, distance]
      simp

/-- One line is above another, with at least the distance of baselines between them. -/
def TextLine.Above (upper lower : TextLine) : Prop :=
  upper.baseline + lineHeight ≤ lower.baseline

theorem apart_textLines (block : Block) : block.textLines.Pairwise TextLine.Above := by
  have baselines : (block.textLines.map TextLine.baseline).Pairwise fun upper lower : Int =>
      upper + lineHeight ≤ lower := by
    rw [map_baseline_textLines, List.pairwise_map]
    refine List.pairwise_lt_range.imp fun {upper lower} below => ?_
    simp only [lineHeight]
    omega
  rw [List.pairwise_map] at baselines
  exact baselines

theorem baseline_mem_textLines {block : Block} {line : TextLine} (member : line ∈ block.textLines) :
    block.uppermost ≤ line.baseline ∧ line.baseline ≤ block.pen := by
  have listed := List.mem_map_of_mem (f := TextLine.baseline) member
  rw [map_baseline_textLines] at listed
  rcases List.mem_map.mp listed with ⟨position, inside, stands⟩
  have few : position ≤ block.lower := Nat.le_of_lt_succ (List.mem_range.mp inside)
  rw [Block.pen, ← stands, lineHeight]
  omega

theorem uppermost_le_pen (block : Block) : block.uppermost ≤ block.pen := by
  rw [Block.pen, lineHeight]
  omega

/-- The pen that is left for the next block is above the lines of this one. -/
theorem next_add_lineHeight_le (block : Block) : block.next + lineHeight ≤ block.uppermost := by
  rw [Block.next, messageGap, lineHeight]
  omega

/-! ## The stack, block by block -/

section Stack

variable (face : Face) (table : Emoji.Table) (viewport : Viewport) (now : Seconds)

/-- The block of a message with its position in the log, when the pen is at `y`. -/
def blockOf (entry : Message × Nat) (y : Int) (linkBase : Nat) : Block :=
  if entry.1.kind.isPresence then .presence y entry.1.author (presenceTail entry.1)
  else
    let layout :=
      Layout.ofText face table entry.1.text viewport.width entry.1.author linkBase
    .written (topOf y layout.rowCount) (entry.2 % 2 = 0) layout entry.1.author
      (stamp entry.1.time now)

/-- A block is what is drawn of a message at some pen. -/
def Block.Draws (block : Block) (message : Message) : Prop :=
  ∃ position y linkBase, block = blockOf face table viewport now (message, position) y linkBase

/-- Blocks of messages, newest first, each begun where the one before left the pen. -/
inductive Stacked : List Message → Int → List Block → Prop where
  | done (older : List Message) (y : Int) : Stacked older y []
  | draw {message : Message} {older : List Message} {y : Int} {block : Block}
      {rest : List Block} :
      block.Draws face table viewport now message → block.pen = y →
        (rest ≠ [] → 0 ≤ block.next) → Stacked older block.next rest →
          Stacked (message :: older) y (block :: rest)

variable {face table viewport now}

theorem pen_blockOf (entry : Message × Nat) (y : Int) (linkBase : Nat) :
    (blockOf face table viewport now entry y linkBase).pen = y := by
  rw [blockOf]
  split
  · simp [Block.pen, Block.uppermost, Block.lower]
  · simp only [Block.pen, Block.uppermost, Block.lower, topOf]
    omega

theorem stack_cons (entry : Message × Nat) (older : List (Message × Nat)) (y : Int)
    (linkBase : Nat) :
    let block := blockOf face table viewport now entry y linkBase
    stack face table viewport now (entry :: older) y linkBase =
      block :: if block.next < 0 then []
        else stack face table viewport now older block.next (linkBase + block.links.length) := by
  intro block
  rcases entry with ⟨message, position⟩
  by_cases presence : message.kind.isPresence = true
  · have shown : block = .presence y message.author (presenceTail message) := if_pos presence
    rw [stack, if_pos presence, shown]
    rfl
  · have shown : block = _ := if_neg presence
    rw [stack, if_neg presence, shown]
    rfl

theorem stacked_stack (messages : List (Message × Nat)) (y : Int) (linkBase : Nat) :
    Stacked face table viewport now (messages.map Prod.fst) y
      (stack face table viewport now messages y linkBase) := by
  induction messages generalizing y linkBase with
  | nil => exact .done [] y
  | cons entry older ih =>
      rw [stack_cons]
      refine .draw ⟨entry.2, y, linkBase, rfl⟩ (pen_blockOf entry y linkBase) ?_ ?_
      · intro some
        by_contra negative
        exact some (if_pos (Int.not_le.mp negative))
      · split
        · exact .done _ _
        · exact ih _ _

namespace Stacked

variable {messages : List Message} {y : Int} {blocks : List Block}

/-- The blocks are those of the newest messages, one of each. -/
theorem draws (stacked : Stacked face table viewport now messages y blocks) :
    List.Forall₂ (Block.Draws face table viewport now) blocks (messages.take blocks.length) := by
  induction stacked with
  | done older y => exact .nil
  | draw draws _ _ _ ih => exact .cons draws ih

/-- The next block is begun above the line before it. -/
theorem next_le {block : Block} (begun : block.pen = y) : block.next + lineHeight ≤ y :=
  Int.le_trans (next_add_lineHeight_le block) (begun ▸ uppermost_le_pen block)

/-- Every block is begun on the picture, and not below the first one. -/
theorem exists_pen (stacked : Stacked face table viewport now messages y blocks) (inside : 0 ≤ y) :
    ∀ block ∈ blocks, ∃ entry pen linkBase, 0 ≤ pen ∧ pen ≤ y ∧
      block = blockOf face table viewport now entry pen linkBase := by
  induction stacked with
  | done older y => exact nofun
  | @draw message older y block rest draws begun goesOn stacked ih =>
      rw [List.forall_mem_cons]
      constructor
      · rcases draws with ⟨position, pen, linkBase, rfl⟩
        obtain rfl : pen = y := (pen_blockOf (message, position) pen linkBase).symm.trans begun
        exact ⟨(message, position), pen, linkBase, inside, Int.le_refl pen, rfl⟩
      · intro later member
        rcases ih (goesOn (List.ne_nil_of_mem member)) later member with
          ⟨entry, pen, linkBase, onPicture, higher, drawn⟩
        have above := next_le begun
        exact ⟨entry, pen, linkBase, onPicture, by omega, drawn⟩

/-- Every line is above the pen at which the first block was begun. -/
theorem baseline_le (stacked : Stacked face table viewport now messages y blocks) :
    ∀ line ∈ textLines blocks, line.baseline ≤ y := by
  induction stacked with
  | done older y => exact nofun
  | @draw message older y block rest draws begun goesOn stacked ih =>
      intro line member
      rw [textLines_cons, List.mem_append] at member
      rcases member with inOlder | inBlock
      · have bound := ih line inOlder
        have above := next_le begun
        omega
      · exact begun ▸ (baseline_mem_textLines inBlock).2

/-- The lines keep their distance, those of older messages above those of newer ones. -/
theorem apart (stacked : Stacked face table viewport now messages y blocks) :
    (textLines blocks).Pairwise TextLine.Above := by
  induction stacked with
  | done older y => exact .nil
  | @draw message older y block rest draws begun goesOn stacked ih =>
      rw [textLines_cons, List.pairwise_append]
      refine ⟨ih, apart_textLines block, fun upper inOlder lower inBlock => ?_⟩
      have above := stacked.baseline_le upper inOlder
      have below := (baseline_mem_textLines inBlock).1
      have between := next_add_lineHeight_le block
      rw [TextLine.Above]
      omega

/-- Every line of an older block is above every line of a newer one. -/
theorem older_above (stacked : Stacked face table viewport now messages y blocks) :
    blocks.Pairwise fun newer older =>
      ∀ upper ∈ older.textLines, ∀ lower ∈ newer.textLines, upper.Above lower :=
  List.pairwise_reverse.mp (List.pairwise_flatMap.mp stacked.apart).2

end Stacked

theorem stacked_blocks (scene : Scene) :
    Stacked face table viewport scene.now scene.messages.reverse lowest
      (blocks face table viewport scene) := by
  have stacked :=
    @stacked_stack face table viewport scene.now scene.messages.zipIdx.reverse lowest 0
  rwa [List.map_reverse, List.zipIdx_map_fst] at stacked

end Stack

/-! ## What is drawn of the lines -/

/-- The sheet of one line. -/
def TextLine.sheet (face : Face) (viewport : Viewport) (line : TextLine) : Sheet :=
  match line.writing with
  | .presence author tail =>
      let width := face.measure author + face.measure tail
      let pen := ((Float32.ofNat viewport.width - width) / 2).round
      let (name, pen) := Sheet.ofText face pen line.baseline author Color.blue
      name ++ (Sheet.ofText face pen line.baseline tail Color.black).1
  | .header author stamp =>
      let (name, pen) := Sheet.ofText face (Float32.ofNat margin) line.baseline author Color.blue
      let stampPen := pen + Float32.ofNat (margin * 2)
      name ++ (Sheet.ofText face stampPen line.baseline stamp Color.black).1
  | .row row =>
      Sheet.concat (row.glyphs.toList.map (Sheet.ofGlyph face line.baseline Color.black))
  | .marker marker =>
      let pen := Float32.ofNat viewport.width - face.measure marker - Layout.contentLeft
      (Sheet.ofText face pen line.baseline marker Color.grayText).1

section Drawn

variable {face : Face} {hasAtlas : Bool} {viewport : Viewport}

/-- All that is written in a line stands on its baseline. -/
theorem baseline_of_mem_sheet {line : TextLine} {glyph : Sheet.DrawnGlyph}
    (member : glyph ∈ (line.sheet face viewport).glyphs) : glyph.baseline = line.baseline := by
  rcases line with ⟨writing, baseline⟩
  cases writing with
  | presence author tail =>
      rcases Sheet.mem_glyphs_append.mp member with inName | ⟨-, inTail⟩
      · exact (Sheet.of_mem_glyphs_ofText inName).1
      · exact (Sheet.of_mem_glyphs_ofText inTail).1
  | header author stamp =>
      rcases Sheet.mem_glyphs_append.mp member with inName | ⟨-, inStamp⟩
      · exact (Sheet.of_mem_glyphs_ofText inName).1
      · exact (Sheet.of_mem_glyphs_ofText inStamp).1
  | row row =>
      rcases Sheet.mem_glyphs_of_concat member with ⟨sheet, listed, inSheet⟩
      rcases List.mem_map.mp listed with ⟨placed, -, rfl⟩
      exact (Sheet.of_mem_glyphs_ofGlyph inSheet).1
  | marker marker => exact (Sheet.of_mem_glyphs_ofText member).1

/-- What is written on an overlay is white. -/
theorem color_of_mem_overlaySheet {top : Int} {overlay : Layout.Overlay} {glyph : Sheet.DrawnGlyph}
    (member : glyph ∈ (overlaySheet face hasAtlas top overlay).glyphs) :
    glyph.color = Color.white := by
  rcases overlay with ⟨kind, pen, row⟩
  cases kind with
  | link index =>
      rw [overlaySheet_link] at member
      rcases Sheet.mem_glyphs_of_ofFitting member with ⟨drawn, result, member⟩
      rcases Option.bind_eq_some_iff.mp result with ⟨right, -, result⟩
      cases result
      rcases Sheet.mem_glyphs_append.mp member with inBadge | ⟨-, inLabel⟩
      · cases inBadge
      · exact (Sheet.of_mem_glyphs_ofText inLabel).2
  | emoji cell =>
      rcases Sheet.mem_glyphs_of_ofFitting member with ⟨drawn, result, member⟩
      rcases Option.bind_eq_some_iff.mp result with ⟨left, -, result⟩
      dsimp only at result
      split at result
      · cases result
        cases member
      · rcases Option.bind_eq_some_iff.mp result with ⟨right, -, result⟩
        cases result
        cases member

/-- The body of a message is its lines, with the overlays over them. -/
theorem bodySheet_eq (layout : Layout) (top : Int) :
    bodySheet face hasAtlas viewport layout top =
      Sheet.concat ((bodyLines layout top).map (TextLine.sheet face viewport)) ++
        Sheet.concat (layout.overlays.toList.map (overlaySheet face hasAtlas top)) := by
  rw [bodySheet, bodyLines, List.map_append, List.map_map, Sheet.concat_append]
  cases layout.marker with
  | none => rfl
  | some marker => exact congrArg (_ ++ · ++ _) (Sheet.append_empty _).symm

/-- A message is written in its lines, the header last. -/
theorem sheet_written (top : Int) (banded : Bool) (layout : Layout) (author stamp : String) :
    (Block.written top banded layout author stamp).sheet face hasAtlas viewport =
      (if banded then
          Sheet.one (.fill ⟨0, top - lineHeight * 2, viewport.width,
            top + layout.rowCount * lineHeight - (lineHeight * 5 / 8 : Nat)⟩ Color.grayBand)
        else Sheet.empty) ++ bodySheet face hasAtlas viewport layout top ++
          TextLine.sheet face viewport ⟨.header author stamp, top - lineHeight⟩ :=
  Sheet.append_assoc _ _ _

/-- What is drawn of a message is written in one of its lines, or on an overlay in white. -/
theorem exists_textLine_of_mem_block {block : Block} {glyph : Sheet.DrawnGlyph}
    (member : glyph ∈ (block.sheet face hasAtlas viewport).glyphs)
    (dark : glyph.color ≠ Color.white) :
    ∃ line ∈ block.textLines, glyph ∈ (line.sheet face viewport).glyphs := by
  cases block with
  | presence baseline author tail => exact ⟨_, List.mem_singleton_self _, member⟩
  | written top banded layout author stamp =>
      rw [sheet_written, bodySheet_eq] at member
      rcases Sheet.mem_glyphs_append.mp member with above | ⟨-, inHeader⟩
      · rcases Sheet.mem_glyphs_append.mp above with inBand | ⟨-, inBody⟩
        · cases banded <;> cases inBand
        · rcases Sheet.mem_glyphs_append.mp inBody with inLines | ⟨-, inOverlays⟩
          · rcases Sheet.mem_glyphs_of_concat inLines with ⟨sheet, listed, inSheet⟩
            rcases List.mem_map.mp listed with ⟨line, inBody, rfl⟩
            exact ⟨line, List.mem_cons_of_mem _ inBody, inSheet⟩
          · rcases Sheet.mem_glyphs_of_concat inOverlays with ⟨sheet, listed, inSheet⟩
            rcases List.mem_map.mp listed with ⟨overlay, -, rfl⟩
            exact absurd (color_of_mem_overlaySheet inSheet) dark
      · exact ⟨_, List.mem_cons_self, inHeader⟩

/-- All that is written in the lines of a message is drawn, unless its drawing stopped. -/
theorem mem_glyphs_block {block : Block} {line : TextLine} {glyph : Sheet.DrawnGlyph}
    (sound : (block.sheet face hasAtlas viewport).faulted = false)
    (listed : line ∈ block.textLines) (member : glyph ∈ (line.sheet face viewport).glyphs) :
    glyph ∈ (block.sheet face hasAtlas viewport).glyphs := by
  cases block with
  | presence baseline author tail =>
      rcases List.mem_singleton.mp listed with rfl
      exact member
  | written top banded layout author stamp =>
      rw [sheet_written] at sound ⊢
      have aboveHeader := (Sheet.sound_append_iff _ _).mp sound
      have beforeBody := (Sheet.sound_append_iff _ _).mp aboveHeader.1
      refine Sheet.mem_glyphs_append.mpr ?_
      rcases List.mem_cons.mp listed with rfl | inBody
      · exact .inr ⟨aboveHeader.1, member⟩
      · rw [bodySheet_eq] at beforeBody ⊢
        have lines := ((Sheet.sound_append_iff _ _).mp beforeBody.2).1
        exact .inl (Sheet.mem_glyphs_append.mpr (.inr ⟨beforeBody.1, Sheet.mem_glyphs_append.mpr
          (.inl (Sheet.mem_glyphs_concat lines (List.mem_map_of_mem inBody) member))⟩))

end Drawn

end Composition

namespace Picture

open FrameChat.Composition

variable {face : Face} {table : Emoji.Table} {hasAtlas : Bool} {scene : Scene} {viewport : Viewport}
  {glyph : Sheet.DrawnGlyph}

/-- What a picture has that is not a label is written in one of its lines, or in the status bar. -/
theorem exists_textLine_of_mem_glyphs
    (member : glyph ∈ (ofScene (some face) table hasAtlas scene viewport).sheet.glyphs)
    (dark : glyph.color ≠ Color.white) :
    (∃ line ∈ textLines (blocks face table viewport scene),
      glyph ∈ (line.sheet face viewport).glyphs) ∨
        glyph ∈ (StatusBar.sheet face viewport scene).glyphs := by
  rcases Sheet.mem_glyphs_append.mp member with inStack | ⟨-, inBar⟩
  · rcases Sheet.mem_glyphs_of_concat inStack with ⟨sheet, listed, inSheet⟩
    rcases List.mem_map.mp listed with ⟨block, inBlocks, rfl⟩
    rcases exists_textLine_of_mem_block inSheet dark with ⟨line, inBlock, inLine⟩
    exact .inl ⟨line, mem_textLines.mpr ⟨block, inBlocks, inBlock⟩, inLine⟩
  · exact .inr inBar

/-- All lines are written on a picture that is drawn to its end. -/
theorem mem_glyphs_of_textLine
    (sound : (ofScene (some face) table hasAtlas scene viewport).sheet.faulted = false)
    {line : TextLine} (listed : line ∈ textLines (blocks face table viewport scene))
    (member : glyph ∈ (line.sheet face viewport).glyphs) :
    glyph ∈ (ofScene (some face) table hasAtlas scene viewport).sheet.glyphs := by
  have stack := ((Sheet.sound_append_iff _ _).mp sound).1
  rcases mem_textLines.mp listed with ⟨block, inBlocks, inBlock⟩
  have drawn : block.sheet face hasAtlas viewport ∈
      (blocks face table viewport scene).map (Block.sheet face hasAtlas viewport) :=
    List.mem_map_of_mem inBlocks
  refine Sheet.mem_glyphs_append.mpr (.inl (Sheet.mem_glyphs_concat stack drawn ?_))
  exact mem_glyphs_block (Sheet.sound_of_mem_concat stack drawn) inBlock member

end Picture

end FrameChat
