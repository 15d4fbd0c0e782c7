import FrameChat.Proofs.Channel.Versions

/-!
# Viewports that are left behind

A refresh that finds frames of a later snapshot published is dropped as a whole.
If the later refresh could not draw one of the viewports, and the one that is
dropped could, that viewport is left with an older frame.  This is the only way
in which it happens: a viewport has a frame of a version or above exactly if a
publication of such a version drew it (`Ordered.cached_iff`).
-/

namespace FrameChat.Channel.Course

variable {course : Course}

/-- The last frame that is stored for a viewport is not of a lower version than any other. -/
theorem Ordered.version_le_cached (ordered : course.Ordered) {viewport : Viewport}
    {stamped : Stamped} (member : stamped ∈ course.stored viewport) :
    ∃ last, course.cached viewport = some last ∧ stamped.version ≤ last.version := by
  have sorted := ordered.stored viewport
  rw [cached]
  rcases List.eq_nil_or_concat (course.stored viewport) with none | ⟨rest, last, split⟩
  · rw [none] at member
    cases member
  · rw [split, List.concat_eq_append] at sorted member ⊢
    refine ⟨last, List.getLast?_concat .., ?_⟩
    rcases List.mem_append.mp member with earlier | same
    · exact ((List.pairwise_append.mp sorted).2.2 stamped earlier last (by simp)).version
    · exact Nat.le_of_eq (congrArg Stamped.version (List.mem_singleton.mp same))

/-- A viewport has a frame of a version or above exactly if one was published for it. -/
theorem Ordered.cached_iff (ordered : course.Ordered) (version : Nat) (viewport : Viewport) :
    (∃ stamped, course.cached viewport = some stamped ∧ version ≤ stamped.version) ↔
      ∃ publication ∈ course.publications,
        version ≤ publication.version ∧ publication.drawn.get viewport ≠ none := by
  constructor
  · rintro ⟨stamped, isLast, notBelow⟩
    rcases mem_stored.mp (List.mem_of_getLast? isLast) with ⟨publication, published, drawn⟩
    refine ⟨publication, published, (stamped?_eq_some drawn).2 ▸ notBelow, fun nothing => ?_⟩
    rw [Publication.stamped?, nothing] at drawn
    cases drawn
  · rintro ⟨publication, published, notBelow, drawn⟩
    rcases Option.ne_none_iff_exists'.mp drawn with ⟨rendering, rendered⟩
    have here : publication.stamped? viewport =
        some ⟨rendering.frame, publication.number, publication.version⟩ := by
      rw [Publication.stamped?, rendered]
      rfl
    rcases ordered.version_le_cached (mem_stored.mpr ⟨publication, published, here⟩) with
      ⟨last, isLast, above⟩
    exact ⟨last, isLast, Nat.le_trans notBelow above⟩

/-- A refresh comes too late exactly if one of a later snapshot published before. -/
theorem Ordered.late_iff (ordered : course.Ordered) (version : Nat) :
    version < course.channel.publishedVersion ↔
      ∃ publication ∈ course.publications, version < publication.version := by
  constructor
  · intro late
    rcases ordered.newest with none | ⟨publication, published, same⟩
    · rw [none] at late
      cases late
    · exact ⟨publication, published, same ▸ late⟩
  · rintro ⟨publication, published, late⟩
    exact Nat.lt_of_lt_of_le late (ordered.within publication published).2

/-- A refresh that comes too late is dropped, and changes nothing. -/
theorem publish_of_late {channel : Channel} {version : Nat}
    (late : version < channel.publishedVersion) (drawn : PerViewport (Option Rendering))
    (renderMs : Nat) : channel.publish version drawn renderMs = (false, channel) := by
  rw [Channel.publish, if_pos late]

/-- What a refresh that is not too late drew for a viewport is stored there. -/
theorem cached_publish_of_inTime {version : Nat} {drawn : PerViewport (Option Rendering)}
    (inTime : course.channel.publishedVersion ≤ version) {viewport : Viewport}
    (rendered : (drawn.get viewport).isSome) (renderMs : Nat) :
    ∃ stamped, (course.publish version drawn renderMs).cached viewport = some stamped ∧
      version ≤ stamped.version := by
  rcases Option.isSome_iff_exists.mp rendered with ⟨rendering, here⟩
  cases outcome : course.channel.publish version drawn renderMs with
  | mk published after =>
      cases published with
      | false =>
          rcases (publish_of_false outcome).2 with late | nothing
          · exact absurd late (Nat.not_lt.mpr inTime)
          · rw [nothing viewport] at here
            cases here
      | true =>
          rw [cached_publish outcome, here]
          exact ⟨_, rfl, Nat.le_refl version⟩

/--
A refresh publishes what it drew of a snapshot.  A viewport that it drew then
has a frame of that snapshot or of a later one, except if a refresh of a later
snapshot published before and none that published did draw this viewport from
that snapshot or a later one.  A refresh after which a later one had published
is dropped, and changes nothing.
-/
theorem cached_after_publish (name : String) (settings : Settings) (history : List Message)
    (active : Seconds) (counter : UInt64) (notices : PerViewport Frame) (instant : Nat)
    (actions : List Action) (pick version : Nat) (drawn : PerViewport (Option Rendering))
    (renderMs : Nat) (viewport : Viewport) :
    let before := (start name settings history active counter notices instant).run actions
    let after := before.step (.publish pick drawn renderMs)
    before.drawing[pick]? = some version → (drawn.get viewport).isSome →
      ((∃ stamped, after.cached viewport = some stamped ∧ version ≤ stamped.version) ↔
        ¬((∃ publication ∈ before.publications, version < publication.version) ∧
          ∀ publication ∈ before.publications, version ≤ publication.version →
            publication.drawn.get viewport = none)) ∧
      after.channel.frames.get viewport = (after.cached viewport).map Stamped.frame ∧
      ((∃ publication ∈ before.publications, version < publication.version) →
        before.channel.publish version drawn renderMs = (false, before.channel)) := by
  intro before after picked rendered
  have ordered : before.Ordered := ordered_run (ordered_start ..) actions
  have faithful : after.Faithful := faithful_step (faithful_run (faithful_start ..) actions) _
  have stepped : after = (before.finish pick).publish version drawn renderMs := by
    show before.step _ = _
    rw [step, picked]
  refine ⟨?_, faithful.frames viewport, fun late =>
    publish_of_late ((ordered.late_iff version).mpr late) drawn renderMs⟩
  -- A late refresh leaves the frames that others stored; one in time stores its own.
  by_cases late : version < before.channel.publishedVersion
  · have dropped : (before.finish pick).channel.publish version drawn renderMs =
        (false, before.channel) := publish_of_late late drawn renderMs
    have same : after.cached viewport = before.cached viewport := by
      rw [stepped, publish_of_dropped dropped]
      rfl
    rw [same, ordered.cached_iff, ← ordered.late_iff]
    simp only [late, true_and, not_forall, exists_prop, ne_eq]
  · have inTime : (before.finish pick).channel.publishedVersion ≤ version := Nat.not_lt.mp late
    have shown : ∃ stamped, after.cached viewport = some stamped ∧ version ≤ stamped.version := by
      rw [stepped]
      exact cached_publish_of_inTime inTime rendered renderMs
    rw [← ordered.late_iff]
    exact iff_of_true shown fun impossible => late impossible.1

/-! ## A viewport that is left behind -/

/--
Both viewports are drawn once; then two refreshes are under way, and the later
one publishes first and could draw the narrow viewport only.
-/
def overtaken : List Action :=
  [.snapshot 0, .publish 0 ⟨plain .narrow, plain .wide⟩ 1,
    .record 0 (.written "ann" "first"), .snapshot 0,
    .record 0 (.written "ann" "second"), .snapshot 0, .publish 1 ⟨plain .narrow, none⟩ 1]

/-- The refresh that was overtaken is dropped; the narrow viewport has a later frame by then. -/
theorem narrow_is_not_left_behind :
    let before := quiet.run overtaken
    let after := before.step (.publish 0 ⟨plain .narrow, plain .wide⟩ 1)
    ((∃ stamped, after.cached .narrow = some stamped ∧ 1 ≤ stamped.version) ↔
        ¬((∃ publication ∈ before.publications, 1 < publication.version) ∧
          ∀ publication ∈ before.publications, 1 ≤ publication.version →
            publication.drawn.get .narrow = none)) ∧
      after.channel.frames.get .narrow = (after.cached .narrow).map Stamped.frame ∧
      ((∃ publication ∈ before.publications, 1 < publication.version) →
        before.channel.publish 1 ⟨plain .narrow, plain .wide⟩ 1 = (false, before.channel)) :=
  cached_after_publish "lobby" .standard [] 0 0 ⟨Frame.empty .narrow, Frame.empty .wide⟩ 0
    overtaken 0 1 ⟨plain .narrow, plain .wide⟩ 1 .narrow rfl rfl

/-- A refresh may leave a viewport that it drew with a frame of an older snapshot. -/
theorem left_behind :
    ¬∀ (name : String) (settings : Settings) (history : List Message) (active : Seconds)
      (counter : UInt64) (notices : PerViewport Frame) (instant : Nat) (actions : List Action)
      (pick version : Nat) (drawn : PerViewport (Option Rendering)) (renderMs : Nat)
      (viewport : Viewport),
      let before := (start name settings history active counter notices instant).run actions
      before.drawing[pick]? = some version → (drawn.get viewport).isSome →
        ∃ stamped, (before.step (.publish pick drawn renderMs)).cached viewport = some stamped ∧
          version ≤ stamped.version := by
  intro always
  obtain ⟨stamped, isLast, notBelow⟩ := always "lobby" .standard [] 0 0
    ⟨Frame.empty .narrow, Frame.empty .wide⟩ 0 overtaken 0 1 ⟨plain .narrow, plain .wide⟩ 1 .wide
    rfl rfl
  have old : ((quiet.run overtaken).step
      (.publish 0 ⟨plain .narrow, plain .wide⟩ 1)).cached .wide =
        some ⟨Frame.empty .wide, 0, 0⟩ := rfl
  rw [← Option.some.inj (old.symm.trans isLast)] at notBelow
  exact absurd notBelow (by decide)

end FrameChat.Channel.Course
