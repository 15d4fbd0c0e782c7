import FrameChat.Service.Streams

/-!
# Timers

A channel that is watched is drawn again when a full period has passed since it
was last drawn, for whatever reason.  Its timer looks at the channel when its
deadline has come, and sets its next deadline: a period after the last drawing
if that was later than the timer knew, and a period from now otherwise.
-/

namespace FrameChat.Service

/-- What a timer does at its deadline, and its next deadline. -/
structure Decision where
  refreshes : Bool
  deadline : Nat
  deriving DecidableEq, Repr

/-- Decide at an instant, by the instant of the last drawing and whether anybody watches. -/
def decide (period now lastRefresh : Nat) (watched : Bool) : Decision :=
  if now < lastRefresh + period then ⟨false, lastRefresh + period⟩
  else ⟨watched, now + period⟩

/-- The deadline of a timer. -/
def Timer.deadline : Timer → Nat
  | .refresh _ deadline => deadline
  | .purge _ deadline => deadline

/-- Take the earliest timer out of a list. -/
def takeEarliest : List Timer → Option (Timer × List Timer)
  | [] => none
  | timer :: rest =>
      match takeEarliest rest with
      | none => some (timer, [])
      | some (other, others) =>
          if other.deadline < timer.deadline then some (other, timer :: others)
          else some (timer, rest)

/-- Take the earliest timer that is due until `target` and move on to its deadline. -/
def nextDue (target : Nat) : Op (Option Timer) :=
  .act fun service =>
    match takeEarliest service.timers with
    | none => (none, service)
    | some (timer, others) =>
        if timer.deadline ≤ target then
          (some timer,
            { service with timers := others, instant := max service.instant timer.deadline })
        else (none, service)

/-- Set a timer. -/
def addTimer (timer : Timer) : Op Unit :=
  .modify fun service => { service with timers := service.timers ++ [timer] }

/-- What happens at the deadline of a timer.  The timer of a closed channel ends. -/
def fire : Timer → Op Unit
  | .purge period deadline => do
      discard purge
      addTimer (.purge period (deadline + period))
  | .refresh index _ => do
      let service ← Operation.ask id
      let channel := service.channel index
      if channel.closed then
        return
      else
        let period := service.channelSettings.refreshPeriod
        let decision :=
          decide period service.instant channel.lastRefresh !channel.roster.isEmpty
        if decision.refreshes then
          discard (refresh index).attempt
        addTimer (.refresh index decision.deadline)

/-- Fire what is due until `target`, at most `bound` times. -/
def fireUntil (target : Nat) : (bound : Nat) → Op Unit
  | 0 => return
  | bound + 1 => do
      match ← nextDue target with
      | none => return
      | some timer =>
          fire timer
          serveAll
          fireUntil target bound

/-- Let time pass for the timers. -/
def sleep (milliseconds : Nat) : Op Unit := do
  let service ← Operation.ask id
  let target := service.instant + milliseconds
  fireUntil target ((milliseconds + 1) * service.timers.length)
  Operation.modify fun service => { service with instant := target }

/-- Sweep idle channels every `period` milliseconds from now on, if that is a period at all. -/
def startPurgeTimer (period : Nat) : Op Unit := do
  if period = 0 then
    Operation.abandon .period
  let now ← Operation.ask Service.instant
  addTimer (.purge period (now + period))

/-- Drop the timers of channels that nothing refers to any more. -/
def dropTimers (held : Nat → Bool) (service : Service) : Service :=
  let streaming (index : Nat) : Bool :=
    service.streams.any fun stream => !stream.finished && stream.channel == index
  let listed (index : Nat) : Bool :=
    service.directory.entries.any fun entry => entry.2 == index
  { service with
    timers := service.timers.filter fun
      | .refresh index _ => held index || streaming index || listed index
      | .purge .. => true }

end FrameChat.Service
