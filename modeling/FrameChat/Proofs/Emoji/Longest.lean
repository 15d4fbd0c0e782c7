import FrameChat.Proofs.Emoji.Records

/-!
# The longest cluster is found

The candidates of a code point are kept in an order: those with more bytes come first, and
of those with as many the one that was listed earlier (`Candidate.Precedes`).  What follows
a code point in a text begins with at most one text of each length, so that the first
candidate that fits is the longest cluster that can be read there, and of its listings the
first one (`probe_finds_longest`).
-/

namespace FrameChat.Emoji

/-! ## Lengths in bytes -/

theorem byteLength_append (front rest : List Char) :
    byteLength (front ++ rest) = byteLength front + byteLength rest := by
  induction front with
  | nil => exact (Nat.zero_add _).symm
  | cons char front ih => rw [List.cons_append, byteLength, byteLength, ih, Nat.add_assoc]

/-- The bytes that are counted are those of the text. -/
theorem byteLength_eq_utf8ByteSize (chars : List Char) :
    byteLength chars = (String.ofList chars).utf8ByteSize := by
  induction chars with
  | nil => rfl
  | cons char rest ih =>
      rw [byteLength, ih, String.ofList_cons, String.utf8ByteSize_append,
        String.utf8ByteSize_singleton]

theorem byteLength_le_of_isPrefix {front line : List Char} (ahead : front <+: line) :
    byteLength front ≤ byteLength line := by
  rcases ahead with ⟨rest, rfl⟩
  rw [byteLength_append]
  exact Nat.le_add_right _ _

theorem eq_nil_of_byteLength_eq_zero {chars : List Char} (zero : byteLength chars = 0) :
    chars = [] := by
  cases chars with
  | nil => rfl
  | cons char rest =>
      have positive := char.utf8Size_pos
      rw [byteLength] at zero
      omega

/-- A text begins with one text of each length only. -/
theorem eq_of_isPrefix_of_byteLength_eq {first second line : List Char}
    (firstAhead : first <+: line) (secondAhead : second <+: line)
    (same : byteLength first = byteLength second) : first = second := by
  have eq_of_isPrefix {short long : List Char} (ahead : short <+: long)
      (same : byteLength short = byteLength long) : short = long := by
    rcases ahead with ⟨rest, rfl⟩
    rw [byteLength_append] at same
    rw [eq_nil_of_byteLength_eq_zero (by omega : byteLength rest = 0), List.append_nil]
  rcases List.prefix_or_prefix_of_prefix firstAhead secondAhead with ahead | ahead
  · exact eq_of_isPrefix ahead same
  · exact (eq_of_isPrefix ahead same.symm).symm

/-- What a text begins with ends between two of its characters. -/
theorem isValid_byteLength_of_isPrefix {front line : List Char} (ahead : front <+: line) :
    String.Pos.Raw.IsValid (String.ofList line) ⟨byteLength front⟩ := by
  rcases ahead with ⟨rest, rfl⟩
  refine String.Pos.Raw.isValid_iff_exists_append.mpr
    ⟨String.ofList front, String.ofList rest, String.ofList_append, ?_⟩
  rw [byteLength_eq_utf8ByteSize]
  rfl

/-! ## Sprites -/

/-- The position whose cell is given. -/
def Cell.ordinal (cell : Cell) : Nat :=
  cell.y / cellEdge * cellsPerRow + cell.x / cellEdge

@[simp]
theorem Cell.ordinal_ofOrdinal (ordinal : Nat) : (Cell.ofOrdinal ordinal).ordinal = ordinal := by
  simp only [Cell.ordinal, Cell.ofOrdinal, cellEdge, cellsPerRow]
  omega

/-- The clusters that have a sprite, by position: those with a code point. -/
def pictured (clusters : List (List Char)) : List (List Char) :=
  clusters.filter fun cluster => !cluster.isEmpty

theorem cons_mem_pictured {clusters : List (List Char)} {lead : Char} {suffix : List Char} :
    lead :: suffix ∈ pictured clusters ↔ lead :: suffix ∈ clusters := by
  rw [pictured, List.mem_filter]
  exact and_iff_left rfl

/-! ## The order of candidates -/

/-- A candidate comes before those with fewer bytes, and before later ones with as many. -/
def Candidate.Precedes (earlier later : Candidate) : Prop :=
  byteLength later.suffix < byteLength earlier.suffix ∨
    byteLength later.suffix = byteLength earlier.suffix ∧ earlier.cell.ordinal < later.cell.ordinal

theorem Candidate.Precedes.byteLength_le {earlier later : Candidate}
    (precedes : earlier.Precedes later) : byteLength later.suffix ≤ byteLength earlier.suffix := by
  rcases precedes with shorter | ⟨same, -⟩
  · exact Nat.le_of_lt shorter
  · exact Nat.le_of_eq same

namespace Table

theorem mem_place {candidate other : Candidate} {list : List Candidate} :
    other ∈ place candidate list ↔ other = candidate ∨ other ∈ list := by
  induction list with
  | nil => exact List.mem_cons
  | cons first rest ih =>
      rw [place]
      split
      · exact List.mem_cons
      · rw [List.mem_cons, ih, List.mem_cons]
        exact or_left_comm

/-- A candidate that is listed last finds its place behind all that are at least as long. -/
theorem ordered_place {candidate : Candidate} {list : List Candidate}
    (ordered : list.Pairwise Candidate.Precedes)
    (last : ∀ other ∈ list, other.cell.ordinal < candidate.cell.ordinal) :
    (place candidate list).Pairwise Candidate.Precedes := by
  induction list with
  | nil => exact List.pairwise_singleton _ _
  | cons first rest ih =>
      rw [List.forall_mem_cons] at last
      have behind := List.pairwise_cons.mp ordered
      rw [place]
      split
      case isTrue longer =>
        refine List.pairwise_cons.mpr ⟨?_, ordered⟩
        intro other member
        refine .inl (Nat.lt_of_le_of_lt ?_ longer)
        rcases List.mem_cons.mp member with rfl | later
        · exact Nat.le_refl _
        · exact (behind.1 other later).byteLength_le
      case isFalse short =>
        refine List.pairwise_cons.mpr ⟨?_, ih behind.2 last.2⟩
        intro other member
        rcases mem_place.mp member with rfl | later
        · rcases Nat.lt_or_eq_of_le (Nat.le_of_not_lt short) with shorter | same
          · exact .inl shorter
          · exact .inr ⟨same, last.1⟩
        · exact behind.1 other later

theorem candidates_add (table : Table) (lead other : Char) (suffix : List Char) :
    (table.add (lead :: suffix)).candidates other =
      if lead = other then place ⟨suffix, Cell.ofOrdinal table.size⟩ (table.candidates lead)
      else table.candidates other := by
  rw [candidates, add, Std.TreeMap.getD_insert]
  by_cases same : lead = other
  · rw [if_pos same, if_pos (Std.LawfulEqCmp.compare_eq_iff_eq.mpr same)]
  · rw [if_neg same, if_neg (fun equal => same (Std.LawfulEqCmp.compare_eq_iff_eq.mp equal))]
    rfl

/-- The candidates of a table are the clusters of a list, in their order. -/
structure Ranks (clusters : List (List Char)) (table : Table) : Prop where
  size : table.size = (pictured clusters).length
  mem_iff : ∀ lead candidate, candidate ∈ table.candidates lead ↔
    ∃ ordinal, (pictured clusters)[ordinal]? = some (lead :: candidate.suffix) ∧
      candidate.cell = Cell.ofOrdinal ordinal
  ordered : ∀ lead, (table.candidates lead).Pairwise Candidate.Precedes

namespace Ranks

variable {clusters : List (List Char)} {table : Table}

theorem empty : Ranks [] empty where
  size := rfl
  mem_iff lead candidate := by simp [pictured]
  ordered lead := by
    rw [candidates_empty]
    exact .nil

/-- The candidates so far have the sprites before the next one. -/
theorem ordinal_lt (ranks : table.Ranks clusters) {lead : Char} {candidate : Candidate}
    (member : candidate ∈ table.candidates lead) : candidate.cell.ordinal < table.size := by
  rcases (ranks.mem_iff lead candidate).mp member with ⟨ordinal, found, cell⟩
  rw [cell, Cell.ordinal_ofOrdinal, ranks.size]
  exact (List.getElem?_eq_some_iff.mp found).1

theorem add (ranks : table.Ranks clusters) (cluster : List Char) :
    (table.add cluster).Ranks (clusters ++ [cluster]) := by
  cases cluster with
  | nil =>
      have same : pictured (clusters ++ [[]]) = pictured clusters := by
        rw [pictured, List.filter_append]
        exact List.append_nil _
      exact ⟨same ▸ ranks.size, same ▸ ranks.mem_iff, ranks.ordered⟩
  | cons lead suffix =>
      have more : pictured (clusters ++ [lead :: suffix]) = pictured clusters ++ [lead :: suffix] :=
        List.filter_append ..
      constructor
      case size => rw [size_add_cons, more, List.length_append, ranks.size, List.length_singleton]
      case mem_iff =>
        intro other candidate
        -- A position of the longer list is one of the list so far, or the new one.
        have listed (ordinal : Nat) (cluster : List Char) :
            (pictured (clusters ++ [lead :: suffix]))[ordinal]? = some cluster ↔
              (pictured clusters)[ordinal]? = some cluster ∨
                ordinal = table.size ∧ lead :: suffix = cluster := by
          rw [more, ranks.size]
          grind
        simp only [listed, or_and_right, exists_or, ← ranks.mem_iff]
        rw [candidates_add]
        split
        case isTrue same =>
          subst same
          rw [mem_place, or_comm]
          refine or_congr_right ⟨?_, ?_⟩
          · rintro rfl
            exact ⟨table.size, ⟨rfl, rfl⟩, rfl⟩
          · rintro ⟨ordinal, ⟨rfl, same⟩, cell⟩
            obtain ⟨rfl⟩ := List.cons.inj same |>.2
            exact congrArg (Candidate.mk _) cell
        case isFalse differ =>
          refine (or_iff_left ?_).symm
          rintro ⟨ordinal, ⟨-, same⟩, -⟩
          exact differ (List.cons.inj same).1
      case ordered =>
        intro other
        rw [candidates_add]
        split
        · refine ordered_place (ranks.ordered lead) fun candidate member => ?_
          rw [Cell.ordinal_ofOrdinal]
          exact ranks.ordinal_lt member
        · exact ranks.ordered other

theorem foldl_add (ranks : table.Ranks clusters) (more : List (List Char)) :
    (more.foldl Table.add table).Ranks (clusters ++ more) := by
  induction more generalizing table clusters with
  | nil => rwa [List.append_nil]
  | cons cluster rest ih =>
      have added := ih (ranks.add cluster)
      rwa [List.append_assoc] at added

end Ranks

theorem ranks_ofSequences (clusters : List (List Char)) :
    (ofSequences clusters).Ranks clusters :=
  Ranks.empty.foldl_add clusters

/-! ## Probes -/

theorem mem_candidates_of_probe {table : Table} {lead : Char} {rest : List Char}
    {found : Candidate} (probed : table.probe lead rest = some found) :
    found ∈ table.candidates lead :=
  List.mem_of_find?_eq_some probed

namespace Ranks

variable {clusters : List (List Char)} {table : Table} {lead : Char} {rest : List Char}

theorem exists_candidate_iff (ranks : table.Ranks clusters) {suffix : List Char} :
    (∃ cell, ⟨suffix, cell⟩ ∈ table.candidates lead) ↔ lead :: suffix ∈ clusters := by
  rw [← cons_mem_pictured, List.mem_iff_getElem?]
  constructor
  · rintro ⟨cell, member⟩
    rcases (ranks.mem_iff lead _).mp member with ⟨ordinal, found, -⟩
    exact ⟨ordinal, found⟩
  · rintro ⟨ordinal, found⟩
    exact ⟨Cell.ofOrdinal ordinal, (ranks.mem_iff lead _).mpr ⟨ordinal, found, rfl⟩⟩

theorem isSome_probe_iff (ranks : table.Ranks clusters) :
    (table.probe lead rest).isSome = true ↔
      ∃ suffix, lead :: suffix ∈ clusters ∧ suffix <+: rest := by
  simp only [probe, List.find?_isSome, List.isPrefixOf_iff_prefix, ← ranks.exists_candidate_iff]
  constructor
  · rintro ⟨candidate, member, ahead⟩
    exact ⟨candidate.suffix, ⟨candidate.cell, member⟩, ahead⟩
  · rintro ⟨suffix, ⟨cell, member⟩, ahead⟩
    exact ⟨⟨suffix, cell⟩, member, ahead⟩

/-- What is found precedes all other candidates that fit. -/
theorem precedes_of_probe (ranks : table.Ranks clusters) {found other : Candidate}
    (probed : table.probe lead rest = some found) (member : other ∈ table.candidates lead)
    (ahead : other.suffix <+: rest) : other = found ∨ found.Precedes other := by
  rcases (List.find?_eq_some_iff_append.mp probed).2 with ⟨before, behind, listed, passed⟩
  have ordered := ranks.ordered lead
  rw [listed] at ordered member
  rcases List.mem_append.mp member with early | late
  · have fits : other.suffix.isPrefixOf rest = true := List.isPrefixOf_iff_prefix.mpr ahead
    have missed := passed other early
    rw [fits] at missed
    cases missed
  · rcases List.mem_cons.mp late with same | later
    · exact .inl same
    · exact .inr ((List.pairwise_cons.mp (List.pairwise_append.mp ordered).2.1).1 other later)

/-- What is found is one of the clusters. -/
theorem cons_mem_of_probe (ranks : table.Ranks clusters) {found : Candidate}
    (probed : table.probe lead rest = some found) : lead :: found.suffix ∈ clusters :=
  ranks.exists_candidate_iff.mp ⟨found.cell, mem_candidates_of_probe probed⟩

theorem byteLength_le_of_probe (ranks : table.Ranks clusters) {found : Candidate}
    (probed : table.probe lead rest = some found) {suffix : List Char}
    (listed : lead :: suffix ∈ clusters) (ahead : suffix <+: rest) :
    byteLength suffix ≤ byteLength found.suffix := by
  rcases ranks.exists_candidate_iff.mpr listed with ⟨cell, member⟩
  rcases ranks.precedes_of_probe probed member ahead with rfl | precedes
  · exact Nat.le_refl _
  · exact precedes.byteLength_le

/-- The sprite that is found is that of the first listing of the cluster. -/
theorem exists_first_of_probe (ranks : table.Ranks clusters) {found : Candidate}
    (probed : table.probe lead rest = some found) :
    ∃ ordinal, (pictured clusters)[ordinal]? = some (lead :: found.suffix) ∧
      (∀ earlier < ordinal, (pictured clusters)[earlier]? ≠ some (lead :: found.suffix)) ∧
      found.cell = Cell.ofOrdinal ordinal := by
  rcases (ranks.mem_iff lead found).mp (mem_candidates_of_probe probed) with
    ⟨ordinal, listed, cell⟩
  refine ⟨ordinal, listed, ?_, cell⟩
  intro earlier before same
  have twin : (⟨found.suffix, Cell.ofOrdinal earlier⟩ : Candidate) ∈ table.candidates lead :=
    (ranks.mem_iff lead _).mpr ⟨earlier, same, rfl⟩
  have ahead : found.suffix <+: rest := isPrefix_of_probe probed
  rcases ranks.precedes_of_probe probed twin ahead with equal | shorter | ⟨-, later⟩
  · have ordinals := congrArg (·.cell.ordinal) equal
    simp only [cell, Cell.ordinal_ofOrdinal] at ordinals
    exact Nat.ne_of_lt before ordinals
  · exact Nat.lt_irrefl _ shorter
  · rw [cell, Cell.ordinal_ofOrdinal, Cell.ordinal_ofOrdinal] at later
    exact Nat.lt_asymm before later

end Ranks

/--
A probe finds something exactly if a cluster can be read.  It then is the longest one, it ends
between two characters of the text, and its sprite is that of the first listing of the cluster.
-/
theorem probe_finds_longest {clusters : List (List Char)} {table : Table}
    (lists : table.Lists clusters) (lead : Char) (rest : List Char) :
    ((table.probe lead rest).isSome = true ↔
      ∃ suffix, lead :: suffix ∈ clusters ∧ suffix <+: rest) ∧
    ∀ found, table.probe lead rest = some found →
      (lead :: found.suffix ∈ clusters ∧ found.suffix <+: rest) ∧
      (∀ suffix, lead :: suffix ∈ clusters → suffix <+: rest →
        byteLength suffix ≤ byteLength found.suffix) ∧
      byteLength found.suffix ≤ (String.ofList rest).utf8ByteSize ∧
      String.Pos.Raw.IsValid (String.ofList rest) ⟨byteLength found.suffix⟩ ∧
      ∃ ordinal, (pictured clusters)[ordinal]? = some (lead :: found.suffix) ∧
        (∀ earlier < ordinal, (pictured clusters)[earlier]? ≠ some (lead :: found.suffix)) ∧
        found.cell = Cell.ofOrdinal ordinal := by
  obtain rfl := lists.eq_ofSequences
  have ranks := ranks_ofSequences clusters
  refine ⟨ranks.isSome_probe_iff, ?_⟩
  intro found probed
  have ahead := isPrefix_of_probe probed
  have within := byteLength_le_of_isPrefix ahead
  rw [byteLength_eq_utf8ByteSize rest] at within
  exact ⟨⟨ranks.cons_mem_of_probe probed, ahead⟩, fun _ => ranks.byteLength_le_of_probe probed,
    within, isValid_byteLength_of_isPrefix ahead, ranks.exists_first_of_probe probed⟩

/-- A thumb alone and with a skin tone, the latter twice and once with a joiner behind it. -/
def thumbs : List (List Char) :=
  [[], ['👍'], ['👍', '🏽'], ['👍', '🏽'], ['👍', '🏽', '\u200D']]

/-- The joiner is missing in the text, and the list without code points takes no position. -/
theorem probe_finds_longest_of_thumbs :
    (ofSequences thumbs).Lists thumbs ∧
      (ofSequences thumbs).probe '👍' ['🏽', ' '] = some ⟨['🏽'], Cell.ofOrdinal 1⟩ ∧
      ∀ suffix, '👍' :: suffix ∈ thumbs → suffix <+: ['🏽', ' '] → byteLength suffix ≤ 4 := by
  have probed : (ofSequences thumbs).probe '👍' ['🏽', ' '] = some ⟨['🏽'], Cell.ofOrdinal 1⟩ := rfl
  have found := (probe_finds_longest .given '👍' ['🏽', ' ']).2 _ probed
  exact ⟨.given, probed, found.2.1⟩

end Table

end FrameChat.Emoji
