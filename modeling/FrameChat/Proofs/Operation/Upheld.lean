import FrameChat.Proofs.Operation.Whole

/-!
# What operations uphold

An operation upholds a condition if every step that meets a state of the kind leaves one of
the kind again, whatever happened to the state before the step.  Operations whose steps are
interleaved in any way uphold it together: what one of them finds between two of its own
steps was left by a step of another (`Interleaved.sound`).  An operation may also be held to
a condition on what it returns, so that conditions are passed on from one part of an
operation to the next (`Upholds.bind`).
-/

namespace FrameChat.Operation

variable {σ α β τ : Type} {holds : σ → Prop}

/-- From states with a condition on, all steps lead to such states, and the value is as told. -/
def Upholds (holds : σ → Prop) (returns : α → Prop) : Operation σ α → Prop
  | .done value => returns value
  | .abandoned _ => True
  | .step act next =>
      ∀ state, holds state → holds (act state).2 ∧ Upholds holds returns (next (act state).1)
  | .clock next => ∀ reading, Upholds holds returns (next reading)
  | .drawing _ next => Upholds holds returns (next ())

namespace Upholds

variable {returns : α → Prop} {operation : Operation σ α}

theorem pure {value : α} (returned : returns value) :
    Upholds holds returns (pure value : Operation σ α) := returned

theorem act {change : σ → α × σ}
    (kept : ∀ state, holds state → holds (change state).2 ∧ returns (change state).1) :
    Upholds holds returns (act change) := kept

theorem ask {question : σ → α} (answered : ∀ state, holds state → returns (question state)) :
    Upholds holds returns (ask question) :=
  fun state held => ⟨held, answered state held⟩

theorem modify {change : σ → σ} (kept : ∀ state, holds state → holds (change state)) :
    Upholds holds (fun _ => True) (modify change) :=
  fun state held => ⟨kept state held, trivial⟩

theorem now : Upholds holds (fun _ => True) (now : Operation σ Seconds) := by
  intro reading
  cases reading <;> trivial

/-- What the second part may count on is what the first part returns. -/
theorem bind {further : β → Prop} {rest : α → Operation σ β}
    (head : Upholds holds returns operation)
    (tail : ∀ value, returns value → Upholds holds further (rest value)) :
    Upholds holds further (operation >>= rest) := by
  show Upholds holds further (operation.bind rest)
  induction operation with
  | done value => exact tail value head
  | abandoned fault => trivial
  | step act next ih => exact fun state held => ⟨(head state held).1, ih _ (head state held).2⟩
  | clock next ih => exact fun reading => ih reading (head reading)
  | drawing sheet next ih => exact ih () head

theorem discard (upholds : Upholds holds returns operation) :
    Upholds holds (fun _ => True) (discard operation) :=
  upholds.bind fun _ _ => Upholds.pure trivial

/-- An attempt returns what its operation does, or is told why there is nothing. -/
theorem attempt (upholds : Upholds holds returns operation) :
    Upholds holds (fun result => ∀ value, result = .ok value → returns value)
      operation.attempt := by
  induction operation with
  | done value =>
      rintro _ ⟨⟩
      exact upholds
  | abandoned fault => exact nofun
  | step act next ih =>
      exact fun state held => ⟨(upholds state held).1, ih _ (upholds state held).2⟩
  | clock next ih => exact fun reading => ih reading (upholds reading)
  | drawing sheet next ih => exact ih () upholds

/-- Whoever does not change what a condition is about upholds it. -/
theorem of_keeps {view : σ → τ} (keeps : Keeps view operation)
    (blind : ∀ state next, view next = view state → holds state → holds next) :
    Upholds holds (fun _ => True) operation := by
  induction operation with
  | done value => trivial
  | abandoned fault => trivial
  | step act next ih =>
      exact fun state held => ⟨blind _ _ (keeps.1 state) held, ih _ (keeps.2 _)⟩
  | clock next ih => exact fun reading => ih reading (keeps reading)
  | drawing sheet next ih => exact ih () keeps

end Upholds

/-- What an operation upholds is true at its end, and its value is as told. -/
theorem Ends.upheld {returns : α → Prop} {operation : Operation σ α} {state final : σ} {value : α}
    (ends : Ends operation state (.ok value) final) (upholds : Upholds holds returns operation)
    (start : holds state) : holds final ∧ returns value := by
  generalize ended : Except.ok value = result at ends
  induction ends with
  | done =>
      cases ended
      exact ⟨start, upholds⟩
  | abandoned => cases ended
  | step _ ih =>
      have stepped := upholds _ start
      exact ih stepped.2 stepped.1 ended
  | clock reading _ ih => exact ih (upholds reading) start ended
  | drawing _ ih => exact ih upholds start ended

/-! ## Interleaved operations -/

/-- One step of an operation, and what is left of it. -/
inductive Advances : Operation σ α → σ → Operation σ α → σ → Prop where
  | step {β : Type} {act : σ → β × σ} {next : β → Operation σ α} {state : σ} :
      Advances (.step act next) state (next (act state).1) (act state).2
  | clock {next : Option Seconds → Operation σ α} {state : σ} (reading : Option Seconds) :
      Advances (.clock next) state (next reading) state
  | drawing {sheet : Sheet} {next : Unit → Operation σ α} {state : σ} :
      Advances (.drawing sheet next) state (next ()) state

theorem Upholds.advance {returns : α → Prop} {operation next : Operation σ α} {state after : σ}
    (upholds : Upholds holds returns operation) (advances : Advances operation state next after)
    (held : holds state) : holds after ∧ Upholds holds returns next := by
  cases advances with
  | step => exact upholds state held
  | clock reading => exact ⟨held, upholds reading⟩
  | drawing => exact ⟨held, upholds⟩

/--
What a state may come to when tasks are begun at any time and their steps are taken in any
order, with what is left of the tasks.
-/
inductive Interleaved (initial : σ → Prop) (meanwhile : σ → σ → Prop)
    (task : Operation σ Unit → Prop) : σ → List (Operation σ Unit) → Prop where
  | start {state : σ} : initial state → Interleaved initial meanwhile task state []
  | meanwhile {state after : σ} {left : List (Operation σ Unit)} :
      Interleaved initial meanwhile task state left → meanwhile state after →
        Interleaved initial meanwhile task after left
  | begin {state : σ} {left : List (Operation σ Unit)} {operation : Operation σ Unit} :
      Interleaved initial meanwhile task state left → task operation →
        Interleaved initial meanwhile task state (operation :: left)
  | advance {state after : σ} {earlier later : List (Operation σ Unit)}
      {operation next : Operation σ Unit} :
      Interleaved initial meanwhile task state (earlier ++ operation :: later) →
        Advances operation state next after →
        Interleaved initial meanwhile task after (earlier ++ next :: later)

/-- A task may be done in whole before any other takes a step. -/
theorem Interleaved.complete {initial : σ → Prop} {meanwhile : σ → σ → Prop}
    {task : Operation σ Unit → Prop} {state final : σ} {left : List (Operation σ Unit)}
    {operation : Operation σ Unit} {result : Except Fault Unit}
    (interleaved : Interleaved initial meanwhile task state left) (isTask : task operation)
    (ends : Ends operation state result final) :
    ∃ rest, Interleaved initial meanwhile task final (rest :: left) := by
  have begun := interleaved.begin isTask
  clear interleaved isTask
  have first {state after : σ} {operation next : Operation σ Unit}
      (going : Interleaved initial meanwhile task state (operation :: left))
      (advances : Advances operation state next after) :
      Interleaved initial meanwhile task after (next :: left) :=
    @advance σ initial meanwhile task state after [] left operation next going advances
  induction ends with
  | done => exact ⟨_, begun⟩
  | abandoned => exact ⟨_, begun⟩
  | step _ ih => exact ih (first begun .step)
  | clock reading _ ih => exact ih (first begun (.clock reading))
  | drawing _ ih => exact ih (first begun .drawing)

/-- A condition that tasks uphold one by one holds of whatever they come to together. -/
theorem Interleaved.sound {initial : σ → Prop} {meanwhile : σ → σ → Prop}
    {task : Operation σ Unit → Prop} {state : σ} {left : List (Operation σ Unit)}
    (interleaved : Interleaved initial meanwhile task state left)
    (first : ∀ state, initial state → holds state)
    (kept : ∀ state after, meanwhile state after → holds state → holds after)
    (upheld : ∀ operation, task operation → Upholds holds (fun _ => True) operation) :
    holds state ∧ ∀ operation ∈ left, Upholds holds (fun _ => True) operation := by
  induction interleaved with
  | start initially => exact ⟨first _ initially, nofun⟩
  | meanwhile _ changed ih => exact ⟨kept _ _ changed ih.1, ih.2⟩
  | begin _ begun ih =>
      refine ⟨ih.1, fun operation member => ?_⟩
      rcases List.mem_cons.mp member with rfl | earlier
      · exact upheld operation begun
      · exact ih.2 operation earlier
  | @advance state after earlier later operation next _ advances ih =>
      have here : operation ∈ earlier ++ operation :: later :=
        List.mem_append_right _ List.mem_cons_self
      rcases (ih.2 operation here).advance advances ih.1 with ⟨held, going⟩
      refine ⟨held, fun other member => ?_⟩
      rcases List.mem_append.mp member with before | after
      · exact ih.2 other (List.mem_append_left _ before)
      · rcases List.mem_cons.mp after with rfl | behind
        · exact going
        · exact ih.2 other (List.mem_append_right _ (List.mem_cons_of_mem _ behind))

end FrameChat.Operation
