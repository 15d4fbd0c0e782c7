import FrameChat.Service.Timers

/-!
# Vigils

The timer that draws a channel again goes by four numbers: its deadline, the instant at which the
channel was drawn last, the present instant, and the number of viewers.  A `Vigil` is these four.
Time passes; viewers come and go, each time with a drawing; the channel is drawn for other
reasons; and when its deadline has come the timer looks, and does what `decide` says.  A drawing
takes no time.

What was drawn is listed beside a vigil, newest first.  The timer does not go by the list, so that
what it makes of the channel is told without what it knows.

* `Kept`: what holds of every vigil, with its drawings.
* `Step.kept`: whatever happens preserves it.
* `Reachable.kept`: it holds of every vigil that was begun while nobody watched.
-/

namespace FrameChat.Service

/-- What the timer of a channel goes by. -/
structure Vigil where
  deadline : Nat
  lastRefresh : Nat
  now : Nat
  viewers : Nat
  deriving DecidableEq, Repr

namespace Vigil

/-- When a channel was drawn, before how many viewers, and whether its timer did it. -/
structure Drawing where
  instant : Nat
  viewers : Nat
  byTimer : Bool
  deriving DecidableEq, Repr

/-- What the timer decides when it looks. -/
def decision (period : Nat) (vigil : Vigil) : Decision :=
  decide period vigil.now vigil.lastRefresh (0 < vigil.viewers)

/-- What the timer draws when it looks. -/
def drawn (period : Nat) (vigil : Vigil) : List Drawing :=
  if (vigil.decision period).refreshes then [⟨vigil.now, vigil.viewers, true⟩] else []

/-- The vigil after the timer looked. -/
def looked (period : Nat) (vigil : Vigil) : Vigil :=
  { vigil with
    deadline := (vigil.decision period).deadline
    lastRefresh := if (vigil.decision period).refreshes then vigil.now else vigil.lastRefresh }

/-- The timer was overtaken by another drawing, or draws for those who watch, or nobody watches. -/
theorem look_cases (period : Nat) (vigil : Vigil) :
    (vigil.now < vigil.lastRefresh + period ∧ vigil.drawn period = [] ∧
        vigil.looked period = { vigil with deadline := vigil.lastRefresh + period }) ∨
      (vigil.lastRefresh + period ≤ vigil.now ∧ 0 < vigil.viewers ∧
        vigil.drawn period = [⟨vigil.now, vigil.viewers, true⟩] ∧
        vigil.looked period =
          { vigil with deadline := vigil.now + period, lastRefresh := vigil.now }) ∨
      (vigil.lastRefresh + period ≤ vigil.now ∧ vigil.viewers = 0 ∧ vigil.drawn period = [] ∧
        vigil.looked period = { vigil with deadline := vigil.now + period }) := by
  by_cases recent : vigil.now < vigil.lastRefresh + period
  · have decided : vigil.decision period = ⟨false, vigil.lastRefresh + period⟩ := if_pos recent
    exact .inl ⟨recent, by rw [drawn, decided]; rfl, by rw [looked, decided]; rfl⟩
  · have decided : vigil.decision period =
        ⟨Decidable.decide (0 < vigil.viewers), vigil.now + period⟩ := if_neg recent
    have full := Nat.le_of_not_lt recent
    by_cases watched : 0 < vigil.viewers
    · rw [decide_eq_true watched] at decided
      exact .inr (.inl ⟨full, watched, by rw [drawn, decided]; rfl, by rw [looked, decided]; rfl⟩)
    · rw [decide_eq_false watched] at decided
      exact .inr (.inr ⟨full, Nat.eq_zero_of_not_pos watched, by rw [drawn, decided]; rfl,
        by rw [looked, decided]; rfl⟩)

theorem lastRefresh_looked (period : Nat) (vigil : Vigil) :
    (vigil.looked period).lastRefresh = vigil.lastRefresh ∨
      (vigil.looked period).lastRefresh = vigil.now := by
  rw [looked]
  dsimp only
  split
  · exact .inr rfl
  · exact .inl rfl

/-- What may happen, and what is drawn then. -/
inductive Step (period : Nat) (vigil : Vigil) : List Drawing → Vigil → Prop where
  | wait (milliseconds : Nat) : Step period vigil [] { vigil with now := vigil.now + milliseconds }
  /-- somebody comes to watch or stops watching -/
  | visit (viewers : Nat) :
      Step period vigil [⟨vigil.now, viewers, false⟩]
        { vigil with viewers, lastRefresh := vigil.now }
  /-- the channel is drawn for another reason -/
  | refresh :
      Step period vigil [⟨vigil.now, vigil.viewers, false⟩] { vigil with lastRefresh := vigil.now }
  | look : vigil.deadline ≤ vigil.now →
      Step period vigil (vigil.drawn period) (vigil.looked period)

/-- What a vigil may come to that is begun while nobody watches, with all that was drawn. -/
inductive Reachable (period : Nat) : List Drawing → Vigil → Prop where
  | start {now : Nat} {drawing : Drawing} :
      drawing.instant ≤ now → drawing.byTimer = false →
        Reachable period [drawing] ⟨now + period, drawing.instant, now, 0⟩
  | step {drawings made : List Drawing} {vigil next : Vigil} :
      Reachable period drawings vigil → Step period vigil made next →
        Reachable period (made ++ drawings) next

/-- A vigil is kept: the timer draws for viewers only, seldom enough and often enough. -/
structure Kept (period : Nat) (drawings : List Drawing) (vigil : Vigil) : Prop where
  /-- the timer draws while somebody watches -/
  watched : ∀ drawing ∈ drawings, drawing.byTimer = true → 0 < drawing.viewers
  /-- a full period has passed since everything that was drawn before -/
  rested : drawings.Pairwise fun later earlier =>
    later.byTimer = true → earlier.instant + period ≤ later.instant
  /-- the instant of the last drawing is known, whoever drew -/
  last : vigil.lastRefresh ∈ drawings.map Drawing.instant
  newest : ∀ drawing ∈ drawings, drawing.instant ≤ vigil.lastRefresh
  past : vigil.lastRefresh ≤ vigil.now
  ahead : vigil.deadline ≤ vigil.now + period
  /-- with viewers the timer looks again within a period of the last drawing -/
  due : 0 < vigil.viewers → vigil.deadline ≤ vigil.lastRefresh + period

namespace Kept

variable {period : Nat} {drawings : List Drawing} {vigil : Vigil}

theorem start {now : Nat} {drawing : Drawing} (past : drawing.instant ≤ now)
    (other : drawing.byTimer = false) :
    Kept period [drawing] ⟨now + period, drawing.instant, now, 0⟩ where
  watched := by simp [other]
  rested := List.pairwise_singleton _ _
  last := List.mem_singleton_self _
  newest := by simp
  past := past
  ahead := Nat.le_refl _
  due := nofun

theorem wait (kept : Kept period drawings vigil) (milliseconds : Nat) :
    Kept period drawings { vigil with now := vigil.now + milliseconds } where
  watched := kept.watched
  rested := kept.rested
  last := kept.last
  newest := kept.newest
  past := Nat.le_add_right_of_le kept.past
  ahead := Nat.le_trans kept.ahead (Nat.add_le_add_right (Nat.le_add_right _ _) period)
  due := kept.due

/-- A drawing now is the newest one, and the timer looks within a period of it. -/
theorem draw (kept : Kept period drawings vigil) {drawing : Drawing}
    (now : drawing.instant = vigil.now)
    (watched : drawing.byTimer = true → 0 < drawing.viewers)
    (rested : drawing.byTimer = true → vigil.lastRefresh + period ≤ vigil.now)
    {next : Vigil} (drawn : next.lastRefresh = vigil.now) (still : next.now = vigil.now)
    (ahead : next.deadline ≤ vigil.now + period) : Kept period (drawing :: drawings) next where
  watched := List.forall_mem_cons.mpr ⟨watched, kept.watched⟩
  rested := by
    refine List.pairwise_cons.mpr ⟨fun earlier listed byTimer => ?_, kept.rested⟩
    have before := kept.newest earlier listed
    have full := rested byTimer
    omega
  last := by simp [now, drawn]
  newest := by
    refine List.forall_mem_cons.mpr ⟨by omega, fun earlier listed => ?_⟩
    have before := kept.newest earlier listed
    have past := kept.past
    omega
  past := by omega
  ahead := by omega
  due _ := by omega

/-- The timer looks, whether its deadline has come or not. -/
theorem look (kept : Kept period drawings vigil) :
    Kept period (vigil.drawn period ++ drawings) (vigil.looked period) := by
  rcases look_cases period vigil with
    ⟨recent, nothing, same⟩ | ⟨full, watched, draws, same⟩ | ⟨full, nobody, nothing, same⟩
  · rw [nothing, same]
    exact { kept with
      ahead := Nat.add_le_add_right kept.past period
      due := fun _ => Nat.le_refl _ }
  · rw [draws, same]
    exact kept.draw rfl (fun _ => watched) (fun _ => full) rfl rfl (Nat.le_refl _)
  · rw [nothing, same]
    exact { kept with
      ahead := Nat.le_refl _
      due := fun some => absurd some (by simp [nobody]) }

end Kept

/-- Whatever happens to a vigil, it is kept. -/
theorem Step.kept {period : Nat} {drawings made : List Drawing} {vigil next : Vigil}
    (step : Step period vigil made next) (kept : Kept period drawings vigil) :
    Kept period (made ++ drawings) next := by
  cases step with
  | wait milliseconds => exact kept.wait milliseconds
  | visit viewers => exact kept.draw rfl (by simp) (by simp) rfl rfl kept.ahead
  | refresh => exact kept.draw rfl (by simp) (by simp) rfl rfl kept.ahead
  | look due => exact kept.look

theorem Reachable.kept {period : Nat} {drawings : List Drawing} {vigil : Vigil}
    (reachable : Reachable period drawings vigil) : Kept period drawings vigil := by
  induction reachable with
  | start past other => exact .start past other
  | step _ step ih => exact step.kept ih

end Vigil

end FrameChat.Service
