import FrameChat.Proofs.Layout.Contents
import Mathlib.Data.List.TakeWhile

/-!
# The characters of links

A link that a layout records is read off its text.  It begins where a token does, begins
like a web address, and runs to the next blank or to the end of its line.  The characters
of a link are therefore characters of the text that are not blank.  Any of these can be
among them, since a text that begins like a web address begins with a link.

* `exists_read_of_mem_links`: where a link of a layout is read.
* `unbroken_of_mem_links`, `mem_text_of_mem_link`: the characters of a link.
* `mem_links_of_first`, `mem_links_of_unbroken`: a link at the beginning of a text is recorded.
-/

namespace FrameChat

/-- A text without blanks. -/
def Text.Unbroken (text : String) : Prop :=
  ∀ char ∈ text.toList, Text.isBlank char = false

namespace Layout

variable {char : Char} {chars line : List Char}

/-! ## The lines of a text -/

theorem mem_of_mem_expandTabs (member : char ∈ expandTabs chars) : char = ' ' ∨ char ∈ chars := by
  rcases List.mem_flatMap.mp member with ⟨source, among, shown⟩
  split at shown
  · refine .inl ?_
    simpa using shown
  · exact .inr (List.mem_singleton.mp shown ▸ among)

theorem mem_of_mem_withoutReturn (member : char ∈ withoutReturn line) : char ∈ line := by
  rw [withoutReturn] at member
  split at member
  · exact List.dropLast_subset line member
  · exact member

/-- The characters of a line were read before, or are those of the text. -/
theorem mem_of_mem_linesFrom {read : List Char} (listed : line ∈ linesFrom read chars)
    (member : char ∈ line) : char ∈ read ∨ char ∈ chars := by
  fun_induction linesFrom read chars with
  | case1 read none => cases listed
  | case2 read some =>
      rw [List.mem_singleton.mp listed] at member
      exact .inl (List.mem_reverse.mp member)
  | case3 read rest ih =>
      rcases List.mem_cons.mp listed with rfl | later
      · exact .inl (List.mem_reverse.mp (mem_of_mem_withoutReturn member))
      · rcases ih later with nothing | among
        · cases nothing
        · exact .inr (List.mem_cons_of_mem _ among)
  | case4 read first rest notFeed ih =>
      rcases ih listed with before | among
      · rcases List.mem_cons.mp before with rfl | earlier
        · exact .inr List.mem_cons_self
        · exact .inl earlier
      · exact .inr (List.mem_cons_of_mem _ among)

theorem mem_of_mem_sourceLines (listed : line ∈ sourceLines chars) (member : char ∈ line) :
    char ∈ chars := by
  rcases mem_of_mem_linesFrom listed member with nothing | among
  · cases nothing
  · exact among

/-! ## The links on them -/

theorem eq_takeWhile_of_linkAt {link : List Char} (begins : linkAt line = some link) :
    link = line.takeWhile fun char => !Text.isBlank char := by
  rw [linkAt] at begins
  split at begins
  · exact (Option.some.inj begins).symm
  · cases begins

theorem unbroken_of_linkAt {link : List Char} (begins : linkAt line = some link) :
    Text.Unbroken (String.ofList link) := by
  intro char member
  rw [String.toList_ofList, eq_takeWhile_of_linkAt begins] at member
  simpa using List.mem_takeWhile_imp member

section OfText

variable {face : Face} {table : Emoji.Table} {text author : String} {width linkBase : Nat}
  {link : String}

/-- A recorded link is read somewhere on a line of its text. -/
theorem exists_read_of_mem_links
    (recorded : link ∈ (ofText face table text width author linkBase).links) :
    ∃ line ∈ sourceLines (expandTabs text.toList), ∃ offset,
      linkAt (line.drop offset) = some link.toList := by
  rw [← Array.mem_toList_iff,
    (shows_ofText face table text width author linkBase).links] at recorded
  rcases List.mem_map.mp recorded with ⟨spot, numbered, rfl⟩
  rcases List.mem_filter.mp (List.mem_of_mem_take numbered) with ⟨inRow, begins⟩
  rcases heads_of_mem_spots (List.mem_filter.mp inRow).1 with ⟨line, found, heads⟩
  rcases Option.isSome_iff_exists.mp begins with ⟨run, isLink⟩
  rcases heads with ⟨char, rest, -, -, same, -⟩
  refine ⟨line, List.mem_of_getElem? found, spot.offset, ?_⟩
  rw [← same, isLink, Spot.link, isLink, Option.getD_some, String.toList_ofList]

theorem unbroken_of_mem_links
    (recorded : link ∈ (ofText face table text width author linkBase).links) :
    Text.Unbroken link := by
  rcases exists_read_of_mem_links recorded with ⟨line, -, offset, begins⟩
  have unbroken := unbroken_of_linkAt begins
  rwa [String.ofList_toList] at unbroken

theorem mem_text_of_mem_link
    (recorded : link ∈ (ofText face table text width author linkBase).links)
    (member : char ∈ link.toList) : char ∈ text.toList := by
  have visible := unbroken_of_mem_links recorded char member
  rcases exists_read_of_mem_links recorded with ⟨line, listed, offset, begins⟩
  rw [eq_takeWhile_of_linkAt begins] at member
  have inLine := List.mem_of_mem_drop ((List.takeWhile_subset _) member)
  rcases mem_of_mem_expandTabs (mem_of_mem_sourceLines listed inLine) with rfl | among
  · cases visible
  · exact among

/-! ## A link at the beginning -/

theorem exists_cons_of_linkAt {link : List Char} (begins : linkAt line = some link) :
    ∃ rest, line = 'h' :: rest := by
  cases line with
  | nil => cases begins
  | cons char rest =>
      rw [linkAt] at begins
      split at begins
      case isTrue web =>
        simp only [Bool.or_eq_true, List.isPrefixOf_iff_prefix] at web
        rcases web with plain | secure
        · exact ⟨rest, congrArg (· :: rest) (List.cons_prefix_cons.mp plain).1.symm⟩
        · exact ⟨rest, congrArg (· :: rest) (List.cons_prefix_cons.mp secure).1.symm⟩
      case isFalse => cases begins

/-- A link at the front of a line is that of the first token. -/
theorem exists_tokensFrom_of_linkAt {link : List Char} (begins : linkAt line = some link)
    (table : Emoji.Table) :
    ∃ item rest, tokensFrom table 0 line = (0, ⟨item, some link⟩) :: rest := by
  rcases exists_cons_of_linkAt begins with ⟨rest, rfl⟩
  have visible : ¬ isInvisible 'h' = true := by decide
  rw [tokensFrom, if_neg visible]
  dsimp only
  rw [begins]
  cases table.probe 'h' rest with
  | some found => exact ⟨.emoji found.cell, _, rfl⟩
  | none => exact ⟨.glyph 'h', _, rfl⟩

theorem size_rows_ofText_pos {spot : Spot} (member : spot ∈ spots face table text width) :
    0 < (ofText face table text width author linkBase).rows.size := by
  have below := (shows_whole face table text width linkBase).below spot member
  rw [ofText]
  split
  case isTrue long =>
    rw [size_rows_cut _ author (Nat.le_of_succ_le long)]
    decide
  case isFalse => exact Nat.zero_lt_of_lt below

/-- If the first line of a text begins with a link, the link is recorded. -/
theorem mem_links_of_first {lines : List (List Char)} {link : List Char}
    (first : sourceLines (expandTabs text.toList) = line :: lines)
    (begins : linkAt line = some link) (room : linkBase < maxLinks) :
    String.ofList link ∈ (ofText face table text width author linkBase).links := by
  rcases exists_tokensFrom_of_linkAt begins table with ⟨item, tokens, read⟩
  -- The first token of a text is put into the first row, which is never cut.
  let spot := Setting.start.beginLine.spotFor face (rightEdge width) 0 (0, ⟨item, some link⟩)
  have ahead : ∃ later, spots face table text width = spot :: later := by
    rw [spots, first, traceLines, read, trace]
    exact ⟨_, rfl⟩
  rcases ahead with ⟨later, listed⟩
  have member : spot ∈ spots face table text width := by
    rw [listed]
    exact List.mem_cons_self
  have shown : ∃ rest, (ofText face table text width author linkBase).kept
      (spots face table text width) = spot :: rest := by
    rw [kept, listed]
    exact ⟨_, List.filter_cons_of_pos (decide_eq_true (size_rows_ofText_pos member))⟩
  rcases shown with ⟨rest, shown⟩
  rw [← Array.mem_toList_iff, (shows_ofText face table text width author linkBase).links, shown,
    numbered, List.filter_cons_of_pos rfl, List.take_cons (Nat.sub_pos_of_lt room), List.map_cons]
  exact List.mem_cons_self

/-- A text without line feeds is one line. -/
theorem linesFrom_of_not_mem {read : List Char} (whole : '\n' ∉ chars)
    (present : read ++ chars ≠ []) : linesFrom read chars = [read.reverse ++ chars] := by
  induction chars generalizing read with
  | nil =>
      rw [List.append_nil] at present ⊢
      rw [linesFrom, if_neg (by simpa using present)]
  | cons char rest ih =>
      have other : char ≠ '\n' := fun same => whole (same ▸ List.mem_cons_self)
      have further : '\n' ∉ rest := fun member => whole (List.mem_cons_of_mem _ member)
      rw [linesFrom, ih further (List.cons_ne_nil _ _), List.reverse_cons, List.append_assoc]
      · rfl
      · exact other

theorem expandTabs_of_not_mem (whole : '\t' ∉ chars) : expandTabs chars = chars := by
  induction chars with
  | nil => rfl
  | cons char rest ih =>
      have other : char ≠ '\t' := fun same => whole (same ▸ List.mem_cons_self)
      have further : '\t' ∉ rest := fun member => whole (List.mem_cons_of_mem _ member)
      rw [expandTabs, List.flatMap_cons, if_neg other]
      exact congrArg (char :: ·) (ih further)

/-- A web address without blanks is recorded as it is. -/
theorem mem_links_of_unbroken (web : "http://".toList.isPrefixOf text.toList = true)
    (unbroken : Text.Unbroken text) (room : linkBase < maxLinks) :
    text ∈ (ofText face table text width author linkBase).links := by
  have unblank (char : Char) (blank : Text.isBlank char = true) : char ∉ text.toList := by
    intro member
    rw [unbroken char member] at blank
    cases blank
  have whole : (text.toList.takeWhile fun char => !Text.isBlank char) = text.toList :=
    List.takeWhile_eq_self_iff.mpr fun char member => by simp [unbroken char member]
  have begins : linkAt text.toList = some text.toList := by
    rw [linkAt, web, Bool.true_or, if_pos rfl, whole]
  have present : [] ++ text.toList ≠ [] := by
    rcases exists_cons_of_linkAt begins with ⟨rest, same⟩
    rw [same]
    exact List.cons_ne_nil _ _
  have line : sourceLines (expandTabs text.toList) = [text.toList] := by
    rw [expandTabs_of_not_mem (unblank '\t' rfl), sourceLines,
      linesFrom_of_not_mem (unblank '\n' rfl) present]
    rfl
  have recorded : String.ofList text.toList ∈
      (ofText face table text width author linkBase).links :=
    mem_links_of_first line begins room
  rwa [String.ofList_toList] at recorded

end OfText

end Layout

end FrameChat
