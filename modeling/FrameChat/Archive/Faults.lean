import FrameChat.Text.Decimal

/-!
# Faults on demand

An archive can be made to fail now and then, to see that channels go on without
it.  Whether an operation fails is either rolled by a small generator, which
gives the same faults again for the same seed, or listed beforehand.
-/

namespace FrameChat.Archive

/-- Which operations of an archive fail. -/
inductive Faults where
  /-- none -/
  | never
  /-- each with a given probability, rolled by a generator -/
  | rolled (rate : Float) (state : UInt64) (operations : Nat)
  /-- those for which the list says so, one entry for each operation -/
  | listed (script : List Bool)

namespace Faults

/-- Seed of the generator unless another is given. -/
def standardSeed : UInt64 := 0x123456789ABCDEF0

/-- A rate is a probability. -/
def isRate (rate : Float) : Bool :=
  0 ≤ rate && rate ≤ 1

/-- What is said of a rate that is none. -/
def rateMessage (rate : Float) : String :=
  "failure_rate must be between 0.0 and 1.0, got " ++ Text.Decimal.shortest rate

/-- Faults with a given probability, if it is one. -/
def ofRate? (rate : Float) (seed : UInt64) : Except String Faults :=
  if isRate rate then .ok (.rolled rate seed 0) else .error (rateMessage rate)

/-- The next state of the generator. -/
def nextState (state : UInt64) : UInt64 :=
  (1664525 * state + 1013904223) % 4294967296

/-- Decide on one operation: whether it fails is returned beside the faults to come. -/
def roll : Faults → Bool × Faults
  | .never => (false, .never)
  | .rolled rate state operations =>
      let state := nextState state
      (Float.ofNat state.toNat / 4294967296 < rate, .rolled rate state (operations + 1))
  | .listed [] => (false, .listed [])
  | .listed (fails :: script) => (fails, .listed script)

/-- Number of operations decided so far, where they are counted. -/
def operations? : Faults → Option Nat
  | .rolled _ _ operations => some operations
  | _ => none

end Faults

end FrameChat.Archive
