import FrameChat.Face.Pool
import Mathlib.Data.List.Perm.Basic

/-!
# Faces on loan

A face that was built lies idle in its pool, or somebody holds it.  A `Moment` is a pool with
the faces that are held at some time, and `Moment.Leads` says what may happen next: a face is
taken, or one that is held is returned.  Whatever happens in that way (`Course`), no face is
lost or listed twice, and no more faces are built than were ever needed at one time.

* `Course.at_moment`: what is known of every moment of a course.
* `Regained`: all faces that were idle are so again, with those that were built meanwhile.
-/

namespace FrameChat.FacePool

open scoped List

/-- A face is taken off the idle ones, or built if there is none. -/
theorem checkout_cases (pool : FacePool) :
    (∃ face rest, pool.idle = face :: rest ∧ pool.checkout = (face, ⟨rest, pool.built⟩)) ∨
      (pool.idle = [] ∧ pool.checkout = (pool.built, ⟨[], pool.built + 1⟩)) := by
  rcases pool with ⟨_ | ⟨face, rest⟩, built⟩
  · exact Or.inr ⟨rfl, rfl⟩
  · exact Or.inl ⟨face, rest, rfl, rfl⟩

/-! ## Moments -/

/-- A pool at some moment, and the faces that are held then. -/
structure Moment where
  pool : FacePool
  held : List Nat
  deriving DecidableEq, Repr

/-- Every face that was built is idle or held, and is listed once. -/
def Moment.Accounted (moment : Moment) : Prop :=
  (moment.pool.idle ++ moment.held).Perm (List.range moment.pool.built)

/-- The most faces that were held at one time. -/
def mostHeld : List Moment → Nat
  | [] => 0
  | moment :: earlier => max moment.held.length (mostHeld earlier)

/-- What may come after a moment. -/
inductive Moment.Leads (moment : Moment) : Moment → Prop where
  | taken {held : List Nat} : held.Perm (moment.pool.checkout.1 :: moment.held) →
      Leads moment ⟨moment.pool.checkout.2, held⟩
  | returned {face : Nat} {held : List Nat} : moment.held.Perm (face :: held) →
      Leads moment ⟨moment.pool.giveBack face, held⟩

namespace Moment

variable {moment after : Moment}

theorem Accounted.length_eq (accounted : moment.Accounted) :
    moment.pool.idle.length + moment.held.length = moment.pool.built := by
  rw [← List.length_append, List.Perm.length_eq accounted, List.length_range]

theorem Accounted.next (accounted : moment.Accounted) (leads : moment.Leads after) :
    after.Accounted := by
  cases leads with
  | @taken held grown =>
      rcases moment.pool.checkout_cases with ⟨face, rest, idle, taken⟩ | ⟨idle, taken⟩
      · rw [Accounted, idle] at accounted
        rw [taken] at grown ⊢
        calc rest ++ held
          _ ~ rest ++ face :: moment.held := grown.append_left rest
          _ ~ face :: (rest ++ moment.held) := List.perm_middle
          _ ~ List.range moment.pool.built := accounted
      · rw [Accounted, idle, List.nil_append] at accounted
        rw [taken] at grown ⊢
        calc held
          _ ~ moment.pool.built :: moment.held := grown
          _ ~ moment.pool.built :: List.range moment.pool.built := accounted.cons _
          _ ~ List.range moment.pool.built ++ [moment.pool.built] :=
            (List.perm_append_singleton _ _).symm
          _ = List.range (moment.pool.built + 1) := List.range_succ.symm
  | @returned face held shrunk =>
      calc face :: (moment.pool.idle ++ held)
        _ ~ moment.pool.idle ++ face :: held := List.perm_middle.symm
        _ ~ moment.pool.idle ++ moment.held := (shrunk.append_left _).symm
        _ ~ List.range moment.pool.built := accounted

/-- A face is built only when none is idle. -/
theorem Leads.built_cases (leads : moment.Leads after) :
    after.pool.built = moment.pool.built ∨
      (moment.pool.idle = [] ∧ after.pool.built = moment.pool.built + 1) := by
  cases leads with
  | taken =>
      have grown := moment.pool.built_checkout
      cases idle : moment.pool.idle with
      | nil => exact Or.inr ⟨rfl, by simpa [idle] using grown⟩
      | cons face rest => exact Or.inl (by simpa [idle] using grown)
  | returned => exact Or.inl rfl

/-- If as many faces were built as were ever held, that stays so. -/
theorem Leads.built_eq (leads : moment.Leads after) (accounted : moment.Accounted) {most : Nat}
    (needed : moment.pool.built = most) : after.pool.built = max after.held.length most := by
  have placed := (accounted.next leads).length_eq
  rcases leads.built_cases with same | ⟨idle, grown⟩
  · omega
  · have before := accounted.length_eq
    rw [idle, List.length_nil] at before
    cases leads with
    | @taken held more =>
        have length : held.length = moment.held.length + 1 := more.length_eq
        change moment.pool.checkout.2.built = moment.pool.built + 1 at grown
        show moment.pool.checkout.2.built = max held.length most
        omega
    | returned => exact absurd grown (Nat.ne_of_lt (Nat.lt_succ_self _))

end Moment

/-! ## Courses -/

/-- The moments of a pool from its beginning, the latest first. -/
inductive Course : List Moment → Prop where
  | start : Course [⟨empty, []⟩]
  | next {moment next : Moment} {earlier : List Moment} :
      Course (moment :: earlier) → moment.Leads next → Course (next :: moment :: earlier)

namespace Course

variable {moment : Moment} {earlier later : List Moment}

theorem accounted (course : Course (moment :: earlier)) :
    moment.Accounted ∧ moment.pool.built = mostHeld (moment :: earlier) := by
  generalize all : moment :: earlier = moments at course
  induction course generalizing moment earlier with
  | start =>
      cases all
      exact ⟨List.Perm.refl _, rfl⟩
  | next _ leads ih =>
      cases all
      rcases ih rfl with ⟨before, needed⟩
      exact ⟨before.next leads, leads.built_eq before needed⟩

theorem before (course : Course (later ++ moment :: earlier)) : Course (moment :: earlier) := by
  induction later with
  | nil => exact course
  | cons last rest ih =>
      refine ih ?_
      rw [List.cons_append] at course
      generalize left : rest ++ moment :: earlier = moments at course ⊢
      cases course with
      | start => simp at left
      | next course => exact course

/-- At every moment every face is in one place, and as many were built as were ever held. -/
theorem at_moment (course : Course (later ++ moment :: earlier)) :
    (moment.pool.idle.length + moment.held.length = moment.pool.built ∧
      (moment.pool.idle ++ moment.held).Perm (List.range moment.pool.built)) ∧
    moment.pool.built = mostHeld (moment :: earlier) ∧
    ∀ previous ∈ earlier.head?, moment.pool.built = previous.pool.built ∨
      (previous.pool.idle = [] ∧ moment.pool.built = previous.pool.built + 1) := by
  have course := course.before
  rcases course.accounted with ⟨accounted, needed⟩
  refine ⟨⟨accounted.length_eq, accounted⟩, needed, ?_⟩
  cases course with
  | start => exact nofun
  | next _ leads =>
      rintro previous ⟨⟩
      exact leads.built_cases

end Course

/-! ## What was idle is idle again -/

/-- The idle faces are those from before, with the ones that were built meanwhile. -/
def Regained (before after : FacePool) : Prop :=
  ∃ count, after.built = before.built + count ∧
    after.idle.Perm (before.idle ++ List.range' before.built count)

namespace Regained

variable {pool middle after : FacePool}

theorem refl (pool : FacePool) : Regained pool pool :=
  ⟨0, rfl, by simp⟩

theorem trans (first : Regained pool middle) (second : Regained middle after) :
    Regained pool after := by
  rcases first with ⟨some, built, idle⟩
  rcases second with ⟨more, builtMore, idleMore⟩
  refine ⟨some + more, by omega, ?_⟩
  calc after.idle
    _ ~ middle.idle ++ List.range' middle.built more := idleMore
    _ ~ (pool.idle ++ List.range' pool.built some) ++ List.range' middle.built more :=
      idle.append_right _
    _ = pool.idle ++ List.range' pool.built (some + more) := by
      rw [built, List.append_assoc, List.range'_append_1]

/-- Whoever returns the face that was taken leaves the pool as it was, but for faces built. -/
theorem giveBack (regained : Regained pool.checkout.2 after) :
    Regained pool (after.giveBack pool.checkout.1) := by
  rcases regained with ⟨count, built, idle⟩
  rcases pool.checkout_cases with ⟨face, rest, wasIdle, taken⟩ | ⟨wasIdle, taken⟩
  · rw [taken] at built idle ⊢
    refine ⟨count, built, ?_⟩
    rw [wasIdle]
    exact idle.cons face
  · rw [taken] at built idle ⊢
    refine ⟨count + 1, built.trans (Nat.add_right_comm _ _ _), ?_⟩
    rw [wasIdle, List.nil_append, List.range'_succ]
    exact idle.cons pool.built

end Regained

end FrameChat.FacePool
