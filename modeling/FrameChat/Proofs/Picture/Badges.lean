import FrameChat.Picture
import FrameChat.Proofs.Layout.Contents

/-!
# Badges on a sheet

A badge is a square in the colour of badges, and its label is what is written in
white before the next one.  No other mark of a picture has either colour, so that
the badges of a picture can be read off its marks.

A sheet `Bears` badges if reading it yields these, whatever was read off the marks
after it.  Sheets that are drawn one after the other bear what each of them bears
(`Bears.append`, `bears_concat`), and a drawing without either colour bears nothing
(`bears_of_plain`).
-/

namespace FrameChat

/-- A link badge as it is drawn. -/
structure Badge where
  area : Area
  label : String
  deriving DecidableEq, Repr

/-- Neither a badge nor a part of its label. -/
def Mark.isPlain : Mark → Bool
  | .blend _ color => color != Color.badge
  | .glyph _ _ _ color _ => color != Color.white
  | .fill .. | .sprite .. => true

namespace Sheet

/-- Read a mark, when the white characters up to the next badge and the badges are known. -/
def readBadge (mark : Mark) (read : List Char × List Badge) : List Char × List Badge :=
  match mark with
  | .blend area color =>
      if color = Color.badge then ([], ⟨area, String.ofList read.1⟩ :: read.2) else read
  | .glyph char _ _ color _ => if color = Color.white then (char :: read.1, read.2) else read
  | .fill .. | .sprite .. => read

/-- The badges of a sheet in the order in which they are drawn. -/
def badges (sheet : Sheet) : List Badge :=
  (sheet.marks.foldr readBadge ([], [])).2

/-- Reading a sheet yields badges, and a character that is white belongs to one of them. -/
def Bears (sheet : Sheet) (badges : List Badge) : Prop :=
  ∀ later, sheet.marks.foldr readBadge ([], later) = ([], badges ++ later)

def Plain (sheet : Sheet) : Prop :=
  ∀ mark ∈ sheet.marks, mark.isPlain = true

theorem Bears.badges_eq {sheet : Sheet} {badges : List Badge} (bears : sheet.Bears badges) :
    sheet.badges = badges := by
  rw [Sheet.badges, bears [], List.append_nil]

/-! ## Drawings without badges -/

theorem readBadge_of_isPlain {mark : Mark} (plain : mark.isPlain = true)
    (read : List Char × List Badge) : readBadge mark read = read := by
  cases mark with
  | fill area color => rfl
  | sprite cell left top => rfl
  | blend area color => exact if_neg (by simpa [Mark.isPlain] using plain)
  | glyph char pen baseline color strokes => exact if_neg (by simpa [Mark.isPlain] using plain)

theorem bears_of_plain {sheet : Sheet} (plain : sheet.Plain) : sheet.Bears [] := by
  intro later
  rw [List.nil_append]
  rw [Plain] at plain
  generalize sheet.marks = marks at plain
  induction marks with
  | nil => rfl
  | cons mark rest ih =>
      rw [List.forall_mem_cons] at plain
      rw [List.foldr_cons, ih plain.2, readBadge_of_isPlain plain.1]

namespace Plain

theorem empty : Sheet.empty.Plain := fun _ member => nomatch member

theorem fault : Sheet.fault.Plain := fun _ member => nomatch member

theorem one {mark : Mark} (plain : mark.isPlain = true) : (Sheet.one mark).Plain := by
  intro other member
  rwa [List.mem_singleton.mp member]

theorem append {first second : Sheet} (head : first.Plain) (tail : second.Plain) :
    (first ++ second).Plain := by
  show (Sheet.append first second).Plain
  rw [Sheet.append]
  split
  · exact head
  · intro mark member
    rcases List.mem_append.mp member with inFirst | inSecond
    · exact head mark inFirst
    · exact tail mark inSecond

theorem concat {sheets : List Sheet} (plain : ∀ sheet ∈ sheets, sheet.Plain) :
    (Sheet.concat sheets).Plain := by
  induction sheets with
  | nil => exact empty
  | cons sheet rest ih =>
      rw [List.forall_mem_cons] at plain
      exact plain.1.append (ih plain.2)

theorem ofFitting {sheet : Option Sheet} (plain : ∀ drawn, sheet = some drawn → drawn.Plain) :
    (Sheet.ofFitting sheet).Plain := by
  cases sheet with
  | none => exact fault
  | some drawn => exact plain drawn rfl

theorem ofGlyph (face : Face) (baseline : Int) {color : Color} (dark : color ≠ Color.white)
    (glyph : Face.PlacedGlyph) : (Sheet.ofGlyph face baseline color glyph).Plain := by
  rw [Sheet.ofGlyph]
  split <;> exact one (by simpa [Mark.isPlain] using dark)

theorem ofText (face : Face) (pen : Float32) (baseline : Int) (text : String) {color : Color}
    (dark : color ≠ Color.white) : (Sheet.ofText face pen baseline text color).1.Plain := by
  refine concat fun sheet member => ?_
  rcases List.mem_map.mp member with ⟨glyph, -, rfl⟩
  exact ofGlyph face baseline dark glyph

end Plain

/-! ## Drawings one after the other -/

theorem sound_append_iff (first second : Sheet) :
    (first ++ second).faulted = false ↔ first.faulted = false ∧ second.faulted = false := by
  simp

theorem Bears.append {first second : Sheet} {head tail : List Badge} (headBears : first.Bears head)
    (tailBears : second.Bears tail) (sound : first.faulted = false) :
    (first ++ second).Bears (head ++ tail) := by
  intro later
  rw [marks_append sound, List.foldr_append, tailBears, headBears, List.append_assoc]

theorem Bears.after_plain {first second : Sheet} {badges : List Badge}
    (bears : second.Bears badges) (plain : first.Plain) (sound : first.faulted = false) :
    (first ++ second).Bears badges :=
  (bears_of_plain plain).append bears sound

theorem Bears.before_plain {first second : Sheet} {badges : List Badge}
    (bears : first.Bears badges) (plain : second.Plain) (sound : first.faulted = false) :
    (first ++ second).Bears badges := by
  have both := bears.append (bears_of_plain plain) sound
  rwa [List.append_nil] at both

theorem bears_concat {α : Type} {draw : α → Sheet} {borne : α → List Badge} {items : List α}
    (sound : (concat (items.map draw)).faulted = false)
    (bears : ∀ item ∈ items, (draw item).faulted = false → (draw item).Bears (borne item)) :
    (concat (items.map draw)).Bears (items.flatMap borne) := by
  induction items with
  | nil => exact fun later => rfl
  | cons item rest ih =>
      have sounds := (sound_append_iff (draw item) (concat (rest.map draw))).mp sound
      rw [List.forall_mem_cons] at bears
      exact (bears.1 sounds.1).append (ih sounds.2 bears.2) sounds.1

/-! ## Labels -/

theorem map_char_run (face : Face) (pen : Float32) (previous : Option Char) (chars : List Char) :
    (face.run pen previous chars).1.map Face.PlacedGlyph.char = chars := by
  induction chars generalizing pen previous with
  | nil => rfl
  | cons char rest ih => exact congrArg (List.cons char) (ih _ _)

theorem foldr_readBadge_glyphs {face : Face} {baseline : Int} {glyphs : List Face.PlacedGlyph}
    (sound : (concat (glyphs.map (ofGlyph face baseline Color.white))).faulted = false)
    (later : List Badge) :
    (concat (glyphs.map (ofGlyph face baseline Color.white))).marks.foldr readBadge ([], later) =
      (glyphs.map Face.PlacedGlyph.char, later) := by
  induction glyphs with
  | nil => rfl
  | cons glyph rest ih =>
      have sounds := (sound_append_iff (ofGlyph face baseline Color.white glyph)
        (concat (rest.map (ofGlyph face baseline Color.white)))).mp sound
      show (ofGlyph face baseline Color.white glyph ++ concat _).marks.foldr readBadge _ = _
      rw [marks_append sounds.1, List.foldr_append, ih sounds.2, ofGlyph]
      split <;> rfl

/-- What is written in white is the label of the badge that was drawn before it. -/
theorem foldr_readBadge_ofText {face : Face} {pen : Float32} {baseline : Int} {text : String}
    (sound : (ofText face pen baseline text Color.white).1.faulted = false) (later : List Badge) :
    (ofText face pen baseline text Color.white).1.marks.foldr readBadge ([], later) =
      (Face.visible text, later) := by
  refine (foldr_readBadge_glyphs sound later).trans (Prod.ext ?_ rfl)
  exact map_char_run face pen none (Face.visible text)

end Sheet

namespace Composition

open Sheet

/-- The badge with a number at a pen of a row, when the baseline of the first row is known. -/
def badgeAt (top : Int) (pen : Float32) (row index : Nat) : Badge where
  area := ⟨nearest pen, cellTop top row + 4, nearest pen + badgeEdge, cellTop top row + 4 + badgeEdge⟩
  label := Text.Hex.ofNat index

/-- The badges of an overlay: one for a link, none for an emoji. -/
def badgesOf (top : Int) (overlay : Layout.Overlay) : List Badge :=
  match overlay.kind with
  | .link index => [badgeAt top overlay.x overlay.row index]
  | .emoji _ => []

theorem visible_hex : ∀ index < Layout.maxLinks,
    String.ofList (Face.visible (Text.Hex.ofNat index)) = Text.Hex.ofNat index := by
  decide

theorem fitting?_eq_some {position : Int} {fit : Int} (fits : fitting? position = some fit) :
    fit = position := by
  rw [fitting?] at fits
  split at fits
  · exact (Option.some.inj fits).symm
  · cases fits

/-- The sheet of the label of a link badge. -/
def linkLabel (face : Face) (top : Int) (pen : Float32) (row index : Nat) : Sheet :=
  (ofText face (Float32.ofInt (nearest pen) +
    (Float32.ofInt badgeEdge - face.measure (Text.Hex.ofNat index)) / 2) (cellTop top row + 17)
    (Text.Hex.ofNat index) Color.white).1

theorem overlaySheet_link (face : Face) (hasAtlas : Bool) (top : Int) (pen : Float32)
    (row index : Nat) :
    overlaySheet face hasAtlas top ⟨.link index, pen, row⟩ =
      ofFitting ((fitting? (nearest pen + badgeEdge)).bind fun right =>
        some (one (.blend ⟨nearest pen, cellTop top row + 4, right, cellTop top row + 4 + badgeEdge⟩
          Color.badge) ++ linkLabel face top pen row index)) := rfl

theorem bears_overlaySheet {face : Face} {hasAtlas : Bool} {top : Int} {overlay : Layout.Overlay}
    (sound : (overlaySheet face hasAtlas top overlay).faulted = false)
    (few : ∀ index, overlay.kind = .link index → index < Layout.maxLinks) :
    (overlaySheet face hasAtlas top overlay).Bears (badgesOf top overlay) := by
  rcases overlay with ⟨kind, pen, row⟩
  cases kind with
  | emoji cell =>
      refine bears_of_plain (Plain.ofFitting fun drawn result => ?_)
      rcases Option.bind_eq_some_iff.mp result with ⟨left, -, result⟩
      dsimp only at result
      split at result
      · cases result
        exact Plain.one rfl
      · rcases Option.bind_eq_some_iff.mp result with ⟨right, -, result⟩
        cases result
        exact Plain.one rfl
  | link index =>
      rw [overlaySheet_link] at sound ⊢
      cases fits : fitting? (nearest pen + badgeEdge) with
      | none =>
          rw [fits] at sound
          cases sound
      | some right =>
          rw [fits] at sound
          obtain rfl := fitting?_eq_some fits
          have label := ((sound_append_iff (one _) (linkLabel face top pen row index)).mp sound).2
          intro later
          show (one _ ++ linkLabel face top pen row index).marks.foldr readBadge _ = _
          rw [marks_append rfl, List.foldr_append, linkLabel, foldr_readBadge_ofText label]
          show ([], Badge.mk _ (String.ofList (Face.visible (Text.Hex.ofNat index))) :: later) = _
          rw [visible_hex index (few index rfl)]
          rfl

/-- The badges of a message, as the overlays of its layout give them. -/
def Block.badges : Block → List Badge
  | .presence .. => []
  | .written top _ layout _ _ => layout.overlays.toList.flatMap (badgesOf top)

/-- Every link of a block is numbered with a single digit. -/
def Block.Numbered : Block → Prop
  | .presence .. => True
  | .written _ _ layout _ _ => ∀ overlay ∈ layout.overlays.toList, ∀ index,
      overlay.kind = .link index → index < Layout.maxLinks

theorem bears_bodySheet {face : Face} {hasAtlas : Bool} {viewport : Viewport} {layout : Layout}
    {top : Int} (sound : (bodySheet face hasAtlas viewport layout top).faulted = false)
    (few : ∀ overlay ∈ layout.overlays.toList, ∀ index,
      overlay.kind = .link index → index < Layout.maxLinks) :
    (bodySheet face hasAtlas viewport layout top).Bears
      (layout.overlays.toList.flatMap (badgesOf top)) := by
  have sounds := (sound_append_iff _ _).mp sound
  refine Bears.after_plain ?_ ?_ sounds.1
  · exact bears_concat sounds.2 fun overlay member drawn =>
      bears_overlaySheet drawn (few overlay member)
  · refine Plain.append (Plain.concat ?_) ?_
    · intro sheet member
      rcases List.mem_map.mp member with ⟨row, -, rfl⟩
      refine Plain.concat fun sheet member => ?_
      rcases List.mem_map.mp member with ⟨glyph, -, rfl⟩
      exact Plain.ofGlyph face _ (by decide) glyph
    · cases layout.marker with
      | none => exact Plain.empty
      | some marker => exact Plain.ofText face _ _ _ (by decide)

theorem bears_block {face : Face} {hasAtlas : Bool} {viewport : Viewport} {block : Block}
    (sound : (block.sheet face hasAtlas viewport).faulted = false) (few : block.Numbered) :
    (block.sheet face hasAtlas viewport).Bears block.badges := by
  cases block with
  | presence baseline author tail =>
      exact bears_of_plain
        ((Plain.ofText face _ _ _ (by decide)).append (Plain.ofText face _ _ _ (by decide)))
  | written top banded layout author stamp =>
      have beforeTime := (sound_append_iff _ _).mp sound
      have beforeName := (sound_append_iff _ _).mp beforeTime.1
      have beforeBody := (sound_append_iff _ _).mp beforeName.1
      refine Bears.before_plain ?_ (Plain.ofText face _ _ _ (by decide)) beforeTime.1
      refine Bears.before_plain ?_ (Plain.ofText face _ _ _ (by decide)) beforeName.1
      refine (bears_bodySheet beforeBody.2 few).after_plain ?_ beforeBody.1
      cases banded with
      | false => exact Plain.empty
      | true => exact Plain.one rfl

end Composition

namespace StatusBar

open Sheet

theorem plain_iconSheet (x y : Nat) : (iconSheet x y).Plain := by
  intro mark member
  rcases List.mem_flatMap.mp member with ⟨dy, -, member⟩
  rcases List.mem_filterMap.mp member with ⟨dx, -, inked⟩
  split at inked
  · cases inked
    exact (by decide : (Color.grayText != Color.badge) = true)
  · cases inked

/-- There are no badges in the status bar. -/
theorem plain_sheet (face : Face) (viewport : Viewport) (scene : Scene) :
    (StatusBar.sheet face viewport scene).Plain := by
  refine Plain.append (Plain.one rfl) (Plain.ofFitting fun drawn result => ?_)
  rcases Option.bind_eq_some_iff.mp result with ⟨countRight, -, result⟩
  rcases Option.bind_eq_some_iff.mp result with ⟨badgeRight, -, result⟩
  obtain rfl := Option.some.inj result
  refine Plain.append (Plain.append (Plain.append (Plain.one rfl) (plain_iconSheet _ _))
    (Plain.ofText face _ _ _ (by decide))) (Plain.ofFitting fun drawn result => ?_)
  rcases Option.bind_eq_some_iff.mp result with ⟨clockLeft, -, result⟩
  obtain rfl := Option.some.inj result
  exact Plain.append (Plain.append (Plain.append (Plain.ofText face _ _ _ (by decide))
    (Plain.ofText face _ _ _ (by decide))) (Plain.one rfl)) (Plain.one rfl)

end StatusBar

end FrameChat
