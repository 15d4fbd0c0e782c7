import FrameChat.Operation

/-!
# Whole operations

An operation that is run alone takes its steps one after the other.  What the
clock shows is not part of the state here: each reading may be any time, or
fail.  `Ends` says with what, and in which state, an operation may so end; it
includes every run by `Operation.run`.

Much of what an operation does leaves the part of the state alone that one
wants to speak about.  `Keeps` says so of all steps of an operation, and
`Ends.keeps` of its end.
-/

namespace FrameChat.Operation

variable {σ τ α β : Type}

/-- An operation that is run alone ends with a result, for some readings of the clock. -/
inductive Ends : Operation σ α → σ → Except Fault α → σ → Prop where
  | done {value : α} {state : σ} : Ends (.done value) state (.ok value) state
  | abandoned {fault : Fault} {state : σ} : Ends (.abandoned fault) state (.error fault) state
  | step {β : Type} {act : σ → β × σ} {next : β → Operation σ α} {state final : σ}
      {result : Except Fault α} :
      Ends (next (act state).1) (act state).2 result final →
        Ends (.step act next) state result final
  | clock {next : Option Seconds → Operation σ α} {state final : σ} {result : Except Fault α}
      (reading : Option Seconds) :
      Ends (next reading) state result final → Ends (.clock next) state result final
  | drawing {sheet : Sheet} {next : Unit → Operation σ α} {state final : σ}
      {result : Except Fault α} :
      Ends (next ()) state result final → Ends (.drawing sheet next) state result final

/-- A run with a clock in the state is one of the ways in which an operation ends. -/
theorem ends_run (reading : σ → Option Seconds) (operation : Operation σ α) (state : σ) :
    Ends operation state (operation.run reading state).1 (operation.run reading state).2 := by
  induction operation generalizing state with
  | done value => exact .done
  | abandoned fault => exact .abandoned
  | step act next ih => exact .step (ih _ _)
  | clock next ih => exact .clock (reading state) (ih _ _)
  | drawing sheet next ih => exact .drawing (ih _ _)

theorem Ends.of_run {reading : σ → Option Seconds} {operation : Operation σ α} {state : σ}
    {result : Except Fault α} (answer : (operation.run reading state).1 = result) :
    Ends operation state result (operation.run reading state).2 :=
  answer ▸ ends_run reading operation state

@[simp]
theorem ends_pure {value result : α} {state final : σ} :
    Ends (pure value) state (.ok result) final ↔ result = value ∧ final = state := by
  constructor
  · intro ends
    cases ends with
    | done => exact ⟨rfl, rfl⟩
  · rintro ⟨rfl, rfl⟩
    exact .done

@[simp]
theorem ends_act {change : σ → α × σ} {state final : σ} {result : α} :
    Ends (act change) state (.ok result) final ↔
      result = (change state).1 ∧ final = (change state).2 := by
  constructor
  · intro ends
    cases ends with
    | step rest =>
        cases rest with
        | done => exact ⟨rfl, rfl⟩
  · rintro ⟨rfl, rfl⟩
    exact .step .done

/-- The clock shows any time, and the state stays. -/
@[simp]
theorem ends_now {state final : σ} {reading : Seconds} :
    Ends now state (.ok reading) final ↔ final = state := by
  constructor
  · intro ends
    cases ends with
    | clock shown rest =>
        cases shown with
        | none => cases rest
        | some time =>
            cases rest with
            | done => rfl
  · rintro rfl
    exact .clock (some reading) .done

/-- Two operations in a row end with a value where the second does, begun where the first ended. -/
theorem ends_bind {first : Operation σ α} {rest : α → Operation σ β} {state final : σ}
    {result : β} :
    Ends (first >>= rest) state (.ok result) final ↔
      ∃ value middle, Ends first state (.ok value) middle ∧
        Ends (rest value) middle (.ok result) final := by
  show Ends (first.bind rest) state (.ok result) final ↔ _
  constructor
  · intro ends
    induction first generalizing state with
    | done value => exact ⟨value, state, .done, ends⟩
    | abandoned fault => cases ends
    | step act next ih =>
        cases ends with
        | step after =>
            rcases ih _ after with ⟨value, middle, head, tail⟩
            exact ⟨value, middle, .step head, tail⟩
    | clock next ih =>
        cases ends with
        | clock reading after =>
            rcases ih _ after with ⟨value, middle, head, tail⟩
            exact ⟨value, middle, .clock reading head, tail⟩
    | drawing sheet next ih =>
        cases ends with
        | drawing after =>
            rcases ih _ after with ⟨value, middle, head, tail⟩
            exact ⟨value, middle, .drawing head, tail⟩
  · rintro ⟨value, middle, head, tail⟩
    -- The induction is on how the first ended, so its result must be a variable.
    generalize ended : Except.ok value = outcome at head
    induction head with
    | done =>
        cases ended
        exact tail
    | abandoned => cases ended
    | step _ ih => exact .step (ih tail ended)
    | clock reading _ ih => exact .clock reading (ih tail ended)
    | drawing _ ih => exact .drawing (ih tail ended)

theorem ends_act_bind {change : σ → α × σ} {rest : α → Operation σ β} {state final : σ}
    {result : Except Fault β} :
    Ends (act change >>= rest) state result final ↔
      Ends (rest (change state).1) (change state).2 result final := by
  constructor
  · intro ends
    cases ends with
    | step last => exact last
  · exact .step

theorem ends_ask_bind {question : σ → α} {rest : α → Operation σ β} {state final : σ}
    {result : Except Fault β} :
    Ends (ask question >>= rest) state result final ↔
      Ends (rest (question state)) state result final :=
  @ends_act_bind σ α β (fun state => (question state, state)) rest state final result

theorem ends_now_bind {rest : Seconds → Operation σ β} {state final : σ} {result : β} :
    Ends (now >>= rest) state (.ok result) final ↔
      ∃ reading, Ends (rest reading) state (.ok result) final := by
  rw [ends_bind]
  constructor
  · rintro ⟨reading, middle, first, last⟩
    obtain rfl := ends_now.mp first
    exact ⟨reading, last⟩
  · rintro ⟨reading, last⟩
    exact ⟨reading, state, ends_now.mpr rfl, last⟩

@[simp]
theorem ends_discard {operation : Operation σ α} {state final : σ} :
    Ends (discard operation) state (.ok ()) final ↔
      ∃ value, Ends operation state (.ok value) final := by
  show Ends (operation >>= fun _ => pure ()) state (.ok ()) final ↔ _
  rw [ends_bind]
  constructor
  · rintro ⟨value, middle, first, last⟩
    rcases ends_pure.mp last with ⟨-, rfl⟩
    exact ⟨value, first⟩
  · rintro ⟨value, first⟩
    exact ⟨value, final, first, ends_pure.mpr ⟨rfl, rfl⟩⟩

/-- An attempt ends where its operation does, also if that is abandoned. -/
@[simp]
theorem ends_attempt {operation : Operation σ α} {state final : σ} {result : Except Fault α} :
    Ends operation.attempt state (.ok result) final ↔ Ends operation state result final := by
  constructor
  · intro ends
    induction operation generalizing state with
    | done value =>
        cases ends with
        | done => exact .done
    | abandoned fault =>
        cases ends with
        | done => exact .abandoned
    | step act next ih =>
        cases ends with
        | step after => exact .step (ih _ after)
    | clock next ih =>
        cases ends with
        | clock reading after => exact .clock reading (ih _ after)
    | drawing sheet next ih =>
        cases ends with
        | drawing after => exact .drawing (ih _ after)
  · intro ends
    induction ends with
    | done => exact .done
    | abandoned => exact .done
    | step _ ih => exact .step ih
    | clock reading _ ih => exact .clock reading ih
    | drawing _ ih => exact .drawing ih

/-- No step of an operation changes a view of the state. -/
def Keeps (view : σ → τ) : Operation σ α → Prop
  | .done _ => True
  | .abandoned _ => True
  | .step act next => (∀ state, view (act state).2 = view state) ∧ ∀ value, Keeps view (next value)
  | .clock next => ∀ reading, Keeps view (next reading)
  | .drawing _ next => Keeps view (next ())

namespace Keeps

variable {view : σ → τ}

theorem pure (value : α) : Keeps view (pure value : Operation σ α) := trivial

theorem act {change : σ → α × σ} (same : ∀ state, view (change state).2 = view state) :
    Keeps view (act change) :=
  ⟨same, fun _ => trivial⟩

theorem ask (question : σ → α) : Keeps view (ask question) :=
  ⟨fun _ => rfl, fun _ => trivial⟩

theorem modify {change : σ → σ} (same : ∀ state, view (change state) = view state) :
    Keeps view (modify change) :=
  ⟨same, fun _ => trivial⟩

theorem now : Keeps view (now : Operation σ Seconds) := by
  intro reading
  cases reading <;> trivial

theorem draw (sheet : Sheet) : Keeps view (draw sheet : Operation σ Unit) := by
  rw [Operation.draw]
  split <;> trivial

theorem bind {first : Operation σ α} {rest : α → Operation σ β} (head : Keeps view first)
    (tail : ∀ value, Keeps view (rest value)) : Keeps view (first >>= rest) := by
  show Keeps view (first.bind rest)
  induction first with
  | done value => exact tail value
  | abandoned fault => trivial
  | step act next ih => exact ⟨head.1, fun value => ih value (head.2 value)⟩
  | clock next ih => exact fun reading => ih reading (head reading)
  | drawing sheet next ih => exact ih () head

/-- Who sees no change sees none in a part of what it sees. -/
theorem part {υ : Type} {operation : Operation σ α} (keeps : Keeps view operation)
    (part : τ → υ) : Keeps (fun state => part (view state)) operation := by
  induction operation with
  | done value => trivial
  | abandoned fault => trivial
  | step act next ih =>
      exact ⟨fun state => congrArg part (keeps.1 state), fun value => ih value (keeps.2 value)⟩
  | clock next ih => exact fun reading => ih reading (keeps reading)
  | drawing sheet next ih => exact ih () keeps

end Keeps

/-- What no step changes is the same at the end. -/
theorem Ends.keeps {view : σ → τ} {operation : Operation σ α} {state final : σ}
    {result : Except Fault α} (ends : Ends operation state result final)
    (keeps : Keeps view operation) : view final = view state := by
  induction ends with
  | done => rfl
  | abandoned => rfl
  | step _ ih => exact (ih (keeps.2 _)).trans (keeps.1 _)
  | clock reading _ ih => exact ih (keeps reading)
  | drawing _ ih => exact ih keeps

/-- An operation may be run after one that keeps a view, as if nothing had happened to the view. -/
theorem Ends.after {view : σ → τ} {first : Operation σ α} {rest : α → Operation σ β}
    {state final : σ} {result : β} (ends : Ends (first >>= rest) state (.ok result) final)
    (keeps : Keeps view first) :
    ∃ value middle, view middle = view state ∧ Ends (rest value) middle (.ok result) final := by
  rcases ends_bind.mp ends with ⟨value, middle, head, tail⟩
  exact ⟨value, middle, head.keeps keeps, tail⟩

/-! ## What steps have in common -/

/-- Every step of an operation relates the state before it to the state after it. -/
def Obeys (relation : σ → σ → Prop) : Operation σ α → Prop
  | .done _ => True
  | .abandoned _ => True
  | .step act next =>
      (∀ state, relation state (act state).2) ∧ ∀ value, Obeys relation (next value)
  | .clock next => ∀ reading, Obeys relation (next reading)
  | .drawing _ next => Obeys relation (next ())

namespace Obeys

variable {relation : σ → σ → Prop}

theorem pure (value : α) : Obeys relation (pure value : Operation σ α) := trivial

theorem act {change : σ → α × σ} (related : ∀ state, relation state (change state).2) :
    Obeys relation (act change) :=
  ⟨related, fun _ => trivial⟩

theorem now : Obeys relation (now : Operation σ Seconds) := by
  intro reading
  cases reading <;> trivial

theorem bind {first : Operation σ α} {rest : α → Operation σ β} (head : Obeys relation first)
    (tail : ∀ value, Obeys relation (rest value)) : Obeys relation (first >>= rest) := by
  show Obeys relation (first.bind rest)
  induction first with
  | done value => exact tail value
  | abandoned fault => trivial
  | step act next ih => exact ⟨head.1, fun value => ih value (head.2 value)⟩
  | clock next ih => exact fun reading => ih reading (head reading)
  | drawing sheet next ih => exact ih () head

/-- Steps that keep a view obey what holds of states with one view. -/
theorem of_keeps {view : σ → τ} {operation : Operation σ α} (keeps : Keeps view operation)
    (related : ∀ state next, view next = view state → relation state next) :
    Obeys relation operation := by
  induction operation with
  | done value => trivial
  | abandoned fault => trivial
  | step act next ih => exact ⟨fun state => related _ _ (keeps.1 state), fun value => ih value (keeps.2 value)⟩
  | clock next ih => exact fun reading => ih reading (keeps reading)
  | drawing sheet next ih => exact ih () keeps

end Obeys

/-! ## Operations that are not abandoned -/

/-- An operation is abandoned at most because the clock cannot be read. -/
def Steady : Operation σ α → Prop
  | .done _ => True
  | .abandoned _ => False
  | .step _ next => ∀ value, Steady (next value)
  | .clock next => ∀ time, Steady (next (some time))
  | .drawing _ next => Steady (next ())

namespace Steady

theorem pure (value : α) : Steady (pure value : Operation σ α) := trivial

theorem act (change : σ → α × σ) : Steady (act change) := fun _ => trivial

theorem ask (question : σ → α) : Steady (ask question) := fun _ => trivial

theorem modify (change : σ → σ) : Steady (modify change) := fun _ => trivial

theorem now : Steady (now : Operation σ Seconds) := fun _ => trivial

theorem draw (sheet : Sheet) : Steady (draw sheet : Operation σ Unit) := by
  rw [Operation.draw]
  split <;> trivial

theorem bind {first : Operation σ α} {rest : α → Operation σ β} (head : Steady first)
    (tail : ∀ value, Steady (rest value)) : Steady (first >>= rest) := by
  show Steady (first.bind rest)
  induction first with
  | done value => exact tail value
  | abandoned fault => exact head.elim
  | step act next ih => exact fun value => ih value (head value)
  | clock next ih => exact fun time => ih (some time) (head time)
  | drawing sheet next ih => exact ih () head

/-- With a clock that can be read an operation ends with a value. -/
theorem run {operation : Operation σ α} (steady : Steady operation) (time : σ → Seconds)
    (state : σ) :
    ∃ value, (operation.run (fun state => some (time state)) state).1 = .ok value := by
  induction operation generalizing state with
  | done value => exact ⟨value, rfl⟩
  | abandoned fault => exact steady.elim
  | step act next ih => exact ih _ (steady _) _
  | clock next ih => exact ih _ (steady _) _
  | drawing sheet next ih => exact ih _ steady _

end Steady

end FrameChat.Operation
