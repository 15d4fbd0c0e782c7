import FrameChat.Calendar
import FrameChat.Picture.Sheet

/-!
# Operations

What a service does for a request takes several steps.  Each step works on the
whole state at once, and between the steps anything may happen.  There are two
places at which this matters most, since other requests are served there: an
operation that reads the clock, and an operation that draws, holds nothing.

An operation is therefore a tree.  Whoever runs it performs the steps one after
the other, and decides what happens at the two open places.  `Operation.run` is
the runner that lets nothing happen there.
-/

namespace FrameChat

/-- Why an operation was abandoned. -/
inductive Operation.Fault where
  /-- the clock could not be read -/
  | clock
  /-- a link cannot stand in a header -/
  | header
  /-- something is to be done again and again without any time in between -/
  | period
  deriving DecidableEq, Repr

/-- How the fault is worded. -/
def Operation.Fault.message : Operation.Fault → String
  | .clock => "clock fault"
  | .header => "URI isn't a valid header value: InvalidHeaderValue"
  | .period => "`period` must be non-zero."

/-- A computation in steps on a state, with open places at clock readings and drawings. -/
inductive Operation (σ α : Type) : Type 1 where
  /-- finished -/
  | done (value : α)
  /-- abandoned -/
  | abandoned (fault : Operation.Fault)
  /-- one step on the state -/
  | step {β : Type} (act : σ → β × σ) (next : β → Operation σ α)
  /-- an open place, after which the clock is read, if it can be -/
  | clock (next : Option Seconds → Operation σ α)
  /-- an open place, after which a sheet is drawn -/
  | drawing (sheet : Sheet) (next : Unit → Operation σ α)

namespace Operation

variable {σ α β : Type}

/-- Go on with the value of an operation. -/
def bind : Operation σ α → (α → Operation σ β) → Operation σ β
  | .done value, rest => rest value
  | .abandoned fault, _ => .abandoned fault
  | .step act next, rest => .step act fun value => (next value).bind rest
  | .clock next, rest => .clock fun reading => (next reading).bind rest
  | .drawing sheet next, rest => .drawing sheet fun _ => (next ()).bind rest

instance : Monad (Operation σ) where
  pure := .done
  bind := bind

/-- Change the state and get a value. -/
def act (change : σ → α × σ) : Operation σ α :=
  .step change .done

/-- Get a value of the state. -/
def ask (question : σ → α) : Operation σ α :=
  .step (fun state => (question state, state)) .done

/-- Change the state. -/
def modify (change : σ → σ) : Operation σ Unit :=
  .step (fun state => ((), change state)) .done

/-- Read the clock. -/
def now : Operation σ Seconds :=
  .clock fun
    | some reading => .done reading
    | none => .abandoned .clock

/-- Draw a sheet; without a character there is no open place. -/
def draw (sheet : Sheet) : Operation σ Unit :=
  if sheet.glyphs.isEmpty then .done () else .drawing sheet .done

/-- Abandon the operation. -/
def abandon (fault : Fault) : Operation σ α :=
  .abandoned fault

/-- Go on after an operation that was abandoned. -/
def attempt : Operation σ α → Operation σ (Except Fault α)
  | .done value => .done (.ok value)
  | .abandoned fault => .done (.error fault)
  | .step act next => .step act fun value => (next value).attempt
  | .clock next => .clock fun reading => (next reading).attempt
  | .drawing sheet next => .drawing sheet fun _ => (next ()).attempt

/-- Run an operation alone; the clock is read off the state. -/
def run (reading : σ → Option Seconds) : Operation σ α → σ → Except Fault α × σ
  | .done value, state => (.ok value, state)
  | .abandoned fault, state => (.error fault, state)
  | .step act next, state => (next (act state).1).run reading (act state).2
  | .clock next, state => (next (reading state)).run reading state
  | .drawing _ next, state => (next ()).run reading state

@[simp]
theorem run_done (reading : σ → Option Seconds) (value : α) (state : σ) :
    (Operation.done value).run reading state = (.ok value, state) := rfl

@[simp]
theorem run_pure (reading : σ → Option Seconds) (value : α) (state : σ) :
    (pure value : Operation σ α).run reading state = (.ok value, state) := rfl

@[simp]
theorem run_act (reading : σ → Option Seconds) (change : σ → α × σ) (state : σ) :
    (act change).run reading state = (.ok (change state).1, (change state).2) := rfl

/-- Running two operations in a row: the second starts where the first ended. -/
theorem run_bind (reading : σ → Option Seconds) (first : Operation σ α)
    (rest : α → Operation σ β) (state : σ) :
    (first >>= rest).run reading state =
      match first.run reading state with
      | (.ok value, state) => (rest value).run reading state
      | (.error fault, state) => (.error fault, state) := by
  show (first.bind rest).run reading state = _
  induction first generalizing state with
  | done value => rfl
  | abandoned fault => rfl
  | step change next ih => exact ih _ _
  | clock next ih => exact ih _ _
  | drawing sheet next ih => exact ih _ _

/-- An attempt ends in the same state and is never abandoned itself. -/
theorem run_attempt (reading : σ → Option Seconds) (operation : Operation σ α) (state : σ) :
    operation.attempt.run reading state =
      (.ok (operation.run reading state).1, (operation.run reading state).2) := by
  induction operation generalizing state with
  | done value => rfl
  | abandoned fault => rfl
  | step change next ih => exact ih _ _
  | clock next ih => exact ih _ _
  | drawing sheet next ih => exact ih _ _

end Operation

end FrameChat
