/-!
# Pools of faces

Loading a font is expensive, so faces are kept after use.  A face is taken from
the idle ones if there is one, and built otherwise; faces are told apart by the
order in which they were built.
-/

namespace FrameChat

/-- The serial numbers of idle faces, last returned first, and the number of faces ever built. -/
structure FacePool where
  idle : List Nat
  built : Nat
  deriving Repr, DecidableEq

namespace FacePool

/-- A pool that has built nothing. -/
def empty : FacePool :=
  ⟨[], 0⟩

/-- Take an idle face, or build one. -/
def checkout (pool : FacePool) : Nat × FacePool :=
  match pool.idle with
  | face :: rest => (face, { pool with idle := rest })
  | [] => (pool.built, { pool with built := pool.built + 1 })

/-- Return a face. -/
def giveBack (pool : FacePool) (face : Nat) : FacePool :=
  { pool with idle := face :: pool.idle }

/-- A face is built exactly when none is idle. -/
theorem built_checkout (pool : FacePool) :
    pool.checkout.2.built = pool.built + if pool.idle.isEmpty then 1 else 0 := by
  cases idle : pool.idle <;> simp [checkout, idle]

/-- Returning a face that was just taken leaves at least as many idle as before. -/
theorem length_idle_giveBack_checkout (pool : FacePool) :
    (pool.checkout.2.giveBack pool.checkout.1).idle.length = max pool.idle.length 1 := by
  cases idle : pool.idle <;> simp [checkout, giveBack, idle]

end FacePool

end FrameChat
