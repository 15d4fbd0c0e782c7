import FrameChat.Layout

/-!
# Spots

A token stands somewhere in its text, and the layout puts it somewhere on the
canvas.  `spots` lists both for every token: the place in the text comes from
reading it once more with a count of characters, the row and the pen from
following the layout.

* `map_snd_tokensFrom`, `heads_of_mem_spots`: the places are those at which the
  tokens are read.
* `map_place_spots`, `spots_ordered`: the places depend on the text alone, and
  are listed in its order.
* `traceLines_eq_of_pose`: numbering links has no influence on spots.
-/

namespace FrameChat.Layout

/-! ## Where tokens begin -/

/-- The tokens of the rest of a line of which `offset` characters were read, with their offsets. -/
def tokensFrom (table : Emoji.Table) (offset : Nat) : List Char → List (Nat × Token)
  | [] => []
  | char :: rest =>
      if isInvisible char then tokensFrom table (offset + 1) rest
      else
        let link := linkAt (char :: rest)
        match table.probe char rest with
        | some found =>
            (offset, ⟨.emoji found.cell, link⟩) ::
              tokensFrom table (offset + 1 + found.suffix.length) (rest.drop found.suffix.length)
        | none => (offset, ⟨.glyph char, link⟩) :: tokensFrom table (offset + 1) rest
termination_by line => line.length
decreasing_by
  all_goals
    simp only [List.length_drop, List.length_cons]
    omega

/-- A token is what is read at the front of a line. -/
def Token.Heads (table : Emoji.Table) (token : Token) (line : List Char) : Prop :=
  ∃ char rest, line = char :: rest ∧ isInvisible char = false ∧ token.link = linkAt line ∧
    token.item = match table.probe char rest with
      | some found => .emoji found.cell
      | none => .glyph char

theorem map_snd_tokensFrom (table : Emoji.Table) (offset : Nat) (line : List Char) :
    (tokensFrom table offset line).map Prod.snd = tokens table line := by
  fun_induction tokensFrom table offset line with
  | case1 => rw [tokens, List.map_nil]
  | case2 offset char rest invisible ih => rw [tokens, if_pos invisible, ih]
  | case3 offset char rest visible link found probed ih =>
      rw [tokens, if_neg visible, probed, List.map_cons, ih]
  | case4 offset char rest visible link probed ih =>
      rw [tokens, if_neg visible, probed, List.map_cons, ih]

/-- A token stands behind what was read, and is read where it stands. -/
theorem heads_of_mem_tokensFrom {table : Emoji.Table} {offset : Nat} {line : List Char}
    {place : Nat} {token : Token} (member : (place, token) ∈ tokensFrom table offset line) :
    ∃ ahead, place = offset + ahead ∧ token.Heads table (line.drop ahead) := by
  fun_induction tokensFrom table offset line with
  | case1 => cases member
  | case2 offset char rest invisible ih =>
      rcases ih member with ⟨ahead, rfl, heads⟩
      exact ⟨ahead + 1, by omega, heads⟩
  | case3 offset char rest visible link found probed ih =>
      rcases List.mem_cons.mp member with same | later
      · cases same
        exact ⟨0, rfl, char, rest, rfl, by simpa using visible, rfl, by rw [probed]⟩
      · rcases ih later with ⟨ahead, rfl, heads⟩
        refine ⟨found.suffix.length + ahead + 1, by omega, ?_⟩
        rwa [List.drop_succ_cons, ← List.drop_drop]
  | case4 offset char rest visible link probed ih =>
      rcases List.mem_cons.mp member with same | later
      · cases same
        exact ⟨0, rfl, char, rest, rfl, by simpa using visible, rfl, by rw [probed]⟩
      · rcases ih later with ⟨ahead, rfl, heads⟩
        exact ⟨ahead + 1, by omega, heads⟩

theorem le_of_mem_tokensFrom {table : Emoji.Table} {offset : Nat} {line : List Char}
    {entry : Nat × Token} (member : entry ∈ tokensFrom table offset line) : offset ≤ entry.1 := by
  rcases heads_of_mem_tokensFrom member with ⟨ahead, placed, -⟩
  omega

theorem tokensFrom_increasing (table : Emoji.Table) (offset : Nat) (line : List Char) :
    (tokensFrom table offset line).Pairwise fun earlier later => earlier.1 < later.1 := by
  fun_induction tokensFrom table offset line with
  | case1 => exact .nil
  | case2 offset char rest invisible ih => exact ih
  | case3 offset char rest visible link found probed ih =>
      refine List.pairwise_cons.mpr ⟨fun later member => ?_, ih⟩
      exact Nat.lt_of_lt_of_le (by omega) (le_of_mem_tokensFrom member)
  | case4 offset char rest visible link probed ih =>
      refine List.pairwise_cons.mpr ⟨fun later member => ?_, ih⟩
      exact Nat.lt_of_succ_le (le_of_mem_tokensFrom member)

/-- The tokens of source lines from a number on, each with its line and its offset. -/
def places (table : Emoji.Table) (line : Nat) (lines : List (List Char)) :
    List (Nat × Nat × Token) :=
  (lines.zipIdx line).flatMap fun entry => (tokensFrom table 0 entry.1).map (Prod.mk entry.2)

theorem places_cons (table : Emoji.Table) (line : Nat) (chars : List Char)
    (rest : List (List Char)) :
    places table line (chars :: rest) =
      (tokensFrom table 0 chars).map (Prod.mk line) ++ places table (line + 1) rest := by
  rw [places, List.zipIdx_cons, List.flatMap_cons]
  rfl

theorem heads_of_mem_places {table : Emoji.Table} {line place offset : Nat}
    {lines : List (List Char)} {token : Token}
    (member : (place, offset, token) ∈ places table line lines) :
    ∃ above chars, place = line + above ∧ lines[above]? = some chars ∧
      token.Heads table (chars.drop offset) := by
  rcases List.mem_flatMap.mp member with ⟨⟨chars, number⟩, listed, read⟩
  rcases List.mem_map.mp read with ⟨entry, inLine, same⟩
  cases same
  rcases heads_of_mem_tokensFrom inLine with ⟨ahead, rfl, heads⟩
  rcases List.mem_zipIdx_iff_le_and_getElem?_sub.mp listed with ⟨above, found⟩
  exact ⟨number - line, chars, by omega, found, by rwa [Nat.zero_add]⟩

/-- Something comes before something else in a text, both given by line and offset. -/
def Before {α : Type} (earlier later : Nat × Nat × α) : Prop :=
  earlier.1 < later.1 ∨ earlier.1 = later.1 ∧ earlier.2.1 < later.2.1

theorem places_ordered (table : Emoji.Table) (line : Nat) (lines : List (List Char)) :
    (places table line lines).Pairwise Before := by
  refine List.pairwise_flatMap.mpr ⟨fun entry _ => ?_, ?_⟩
  · refine List.pairwise_map.mpr ((tokensFrom_increasing table 0 entry.1).imp fun increasing => ?_)
    exact .inr ⟨rfl, increasing⟩
  · have numbered : (lines.zipIdx line).Pairwise fun earlier later => earlier.2 < later.2 := by
      rw [← List.pairwise_map, List.zipIdx_map_snd]
      exact List.pairwise_lt_range'
    refine numbered.imp fun below first firstMember second secondMember => ?_
    rcases List.mem_map.mp firstMember with ⟨_, -, rfl⟩
    rcases List.mem_map.mp secondMember with ⟨_, -, rfl⟩
    exact .inl below

/-! ## Where tokens are put -/

/-- Where a token stands in a text, and where it is put on the canvas. -/
structure Spot where
  /-- the source line -/
  line : Nat
  /-- characters of the source line before the token -/
  offset : Nat
  token : Token
  row : Nat
  pen : Float32

/-- What a spot says of the text alone. -/
def Spot.place (spot : Spot) : Nat × Nat × Token :=
  (spot.line, spot.offset, spot.token)

namespace Setting

/-- Whether an item begins a further row. -/
def breaksBefore (face : Face) (right : Float32) (setting : Setting) (item : Item) : Bool :=
  setting.occupied && decide (right < setting.penFor face item + advanceOf face item)

/-- The row in which the next item is put. -/
def nextRow (face : Face) (right : Float32) (setting : Setting) (item : Item) : Nat :=
  if setting.breaksBefore face right item then setting.rows.size + 1 else setting.rows.size

/-- The pen at which the next item is put. -/
def nextPen (face : Face) (right : Float32) (setting : Setting) (item : Item) : Float32 :=
  if setting.breaksBefore face right item then contentLeft else setting.penFor face item

/-- The spot of the next token, which stands at an offset of a source line. -/
def spotFor (face : Face) (right : Float32) (line : Nat) (setting : Setting)
    (entry : Nat × Token) : Spot where
  line := line
  offset := entry.1
  token := entry.2
  row := setting.nextRow face right entry.2.item
  pen := setting.nextPen face right entry.2.item

/-- The setting in which the next item finds its row. -/
def roomFor (face : Face) (right : Float32) (setting : Setting) (item : Item) : Setting :=
  if setting.breaksBefore face right item then setting.finishRow else setting

/-- Number a link whose text begins at a pen of a row, while there are numbers. -/
def number (linkBase row : Nat) (pen : Float32) (setting : Setting) (link : Option (List Char)) :
    Setting :=
  match link with
  | some link =>
      if linkBase + setting.links.size < maxLinks then
        { setting with
          overlays := setting.overlays.push ⟨.link (linkBase + setting.links.size), pen, row⟩
          links := setting.links.push (String.ofList link) }
      else setting
  | none => setting

/-- Put an item at a pen of a row, which is the one being set. -/
def put (face : Face) (row : Nat) (pen : Float32) (setting : Setting) (item : Item) : Setting :=
  match item with
  | .emoji cell =>
      { setting with
        overlays := setting.overlays.push ⟨.emoji cell, pen, row⟩
        previous := none, x := pen + advanceOf face item, occupied := true }
  | .glyph char =>
      { setting with
        glyphs := setting.glyphs.push ⟨char, pen⟩
        previous := some char, x := pen + advanceOf face item, occupied := true }

/-- A token is set in three steps: a row is found, its link numbered, and its item put. -/
theorem place_eq (face : Face) (right : Float32) (linkBase : Nat) (setting : Setting)
    (token : Token) :
    setting.place face right linkBase token =
      let room := setting.roomFor face right token.item
      let pen := setting.nextPen face right token.item
      (room.number linkBase room.rows.size pen token.link).put face room.rows.size pen token.item := by
  rcases token with ⟨item, link⟩
  cases item <;> rfl

theorem size_rows_roomFor (face : Face) (right : Float32) (setting : Setting) (item : Item) :
    (setting.roomFor face right item).rows.size = setting.nextRow face right item := by
  rw [roomFor, nextRow]
  split
  · exact Array.size_push _
  · rfl

/-- A setting without what it says of links and emoji. -/
def pose (setting : Setting) : Setting :=
  { setting with overlays := #[], links := #[] }

theorem pose_put (face : Face) (row : Nat) (pen : Float32) (setting : Setting) (item : Item) :
    (setting.put face row pen item).pose = (setting.pose.put face row pen item).pose := by
  cases item <;> rfl

theorem pose_number (linkBase row : Nat) (pen : Float32) (setting : Setting)
    (link : Option (List Char)) : (setting.number linkBase row pen link).pose = setting.pose := by
  cases link with
  | none => rfl
  | some link => exact (apply_ite pose _ _ _).trans (ite_self _)

theorem pose_roomFor (face : Face) (right : Float32) (setting : Setting) (item : Item) :
    (setting.roomFor face right item).pose = setting.pose.roomFor face right item := by
  rw [roomFor, roomFor]
  exact apply_ite pose _ _ _

/-- How a token is set does not depend on links and emoji. -/
theorem pose_place (face : Face) (right : Float32) (linkBase other : Nat) (setting : Setting)
    (token : Token) :
    (setting.place face right linkBase token).pose =
      (setting.pose.place face right other token).pose := by
  have settled (setting : Setting) (base : Nat) :
      (setting.place face right base token).pose =
        ((setting.roomFor face right token.item).pose.put face
          (setting.roomFor face right token.item).rows.size
          (setting.nextPen face right token.item) token.item).pose := by
    rw [place_eq]
    dsimp only
    rw [pose_put, pose_number]
  have posed := settled setting.pose other
  rw [← pose_roomFor] at posed
  exact (settled setting linkBase).trans posed.symm

end Setting

/-- The spots of the tokens of a source line, which are put one after the other. -/
def trace (face : Face) (right : Float32) (linkBase line : Nat) :
    Setting → List (Nat × Token) → List Spot
  | _, [] => []
  | setting, entry :: rest =>
      setting.spotFor face right line entry ::
        trace face right linkBase line (setting.place face right linkBase entry.2) rest

/-- The spots of the tokens of source lines, the first of which has a given number. -/
def traceLines (face : Face) (table : Emoji.Table) (right : Float32) (linkBase : Nat) :
    (line : Nat) → Setting → List (List Char) → List Spot
  | _, _, [] => []
  | line, setting, chars :: rest =>
      trace face right linkBase line setting.beginLine (tokensFrom table 0 chars) ++
        traceLines face table right linkBase (line + 1)
          (setting.setLine face table right linkBase chars) rest

/-- The spots of the tokens of a text. -/
def spots (face : Face) (table : Emoji.Table) (text : String) (width : Nat) : List Spot :=
  traceLines face table (rightEdge width) 0 0 Setting.start (sourceLines (expandTabs text.toList))

section Order

variable (face : Face) (table : Emoji.Table) (right : Float32) (linkBase : Nat)

theorem map_place_trace (line : Nat) (setting : Setting) (entries : List (Nat × Token)) :
    (trace face right linkBase line setting entries).map Spot.place =
      entries.map (Prod.mk line) := by
  induction entries generalizing setting with
  | nil => rfl
  | cons entry rest ih => exact congrArg _ (ih _)

theorem map_place_traceLines (line : Nat) (setting : Setting) (lines : List (List Char)) :
    (traceLines face table right linkBase line setting lines).map Spot.place =
      places table line lines := by
  induction lines generalizing line setting with
  | nil => rfl
  | cons chars rest ih => rw [traceLines, List.map_append, map_place_trace, ih, places_cons]

/-- What stands in a text, and where it stands there, does not depend on faces and widths. -/
theorem map_place_spots (text : String) (width : Nat) :
    (spots face table text width).map Spot.place =
      places table 0 (sourceLines (expandTabs text.toList)) :=
  map_place_traceLines face table _ 0 0 Setting.start _

variable {face table right linkBase}

/-- A token is what is read at its spot in the text. -/
theorem heads_of_mem_spots {text : String} {width : Nat} {spot : Spot}
    (member : spot ∈ spots face table text width) :
    ∃ chars, (sourceLines (expandTabs text.toList))[spot.line]? = some chars ∧
      spot.token.Heads table (chars.drop spot.offset) := by
  have placed : spot.place ∈ places table 0 (sourceLines (expandTabs text.toList)) := by
    rw [← map_place_spots face table text width]
    exact List.mem_map_of_mem member
  rcases heads_of_mem_places placed with ⟨above, chars, number, found, heads⟩
  rw [Nat.zero_add] at number
  exact ⟨chars, number ▸ found, heads⟩

/-- Spots are listed in the order of the text. -/
theorem spots_ordered (face : Face) (table : Emoji.Table) (text : String) (width : Nat) :
    (spots face table text width).Pairwise fun earlier later => Before earlier.place later.place := by
  rw [← List.pairwise_map, map_place_spots]
  exact places_ordered table 0 _

end Order

section Independence

variable {face : Face} {table : Emoji.Table} {right : Float32}

theorem trace_eq_of_pose {setting other : Setting} (same : setting.pose = other.pose)
    (linkBase otherBase line : Nat) (entries : List (Nat × Token)) :
    trace face right linkBase line setting entries = trace face right otherBase line other entries := by
  induction entries generalizing setting other with
  | nil => rfl
  | cons entry rest ih =>
      have spot : setting.spotFor face right line entry = other.spotFor face right line entry := by
        change setting.pose.spotFor face right line entry = other.pose.spotFor face right line entry
        rw [same]
      have next : (setting.place face right linkBase entry.2).pose =
          (other.place face right otherBase entry.2).pose := by
        rw [Setting.pose_place _ _ _ 0, Setting.pose_place _ _ otherBase 0, same]
      rw [trace, trace, spot, ih next]

theorem pose_foldl_place {setting other : Setting} (same : setting.pose = other.pose)
    (linkBase otherBase : Nat) (tokens : List Token) :
    (tokens.foldl (Setting.place face right linkBase) setting).pose =
      (tokens.foldl (Setting.place face right otherBase) other).pose := by
  induction tokens generalizing setting other with
  | nil => exact same
  | cons token rest ih =>
      refine ih ?_
      rw [Setting.pose_place _ _ _ 0, Setting.pose_place _ _ otherBase 0, same]

theorem traceLines_eq_of_pose {setting other : Setting} (same : setting.pose = other.pose)
    (linkBase otherBase line : Nat) (lines : List (List Char)) :
    traceLines face table right linkBase line setting lines =
      traceLines face table right otherBase line other lines := by
  induction lines generalizing setting other line with
  | nil => rfl
  | cons chars rest ih =>
      have begun : setting.beginLine.pose = other.beginLine.pose :=
        congrArg Setting.beginLine same
      have next : (setting.setLine face table right linkBase chars).pose =
          (other.setLine face table right otherBase chars).pose :=
        congrArg Setting.finishRow (pose_foldl_place begun linkBase otherBase (tokens table chars))
      rw [traceLines, traceLines, trace_eq_of_pose begun linkBase otherBase, ih next]

end Independence

end FrameChat.Layout
