import FrameChat.Proofs.Operation.Whole

/-!
# What the clock shows

`Ends` leaves open what the clock shows, and whether it can be read at all.  `EndsWhile` says
how an operation may end while the clock shows only what is allowed.  So an operation that is
steady is abandoned only where the clock is allowed to fail (`Steady.shows_none`).

The ends of an operation that is abandoned are wanted too here, so that the steps of a sequence
are taken apart with any result (`EndsWhile.bind`).
-/

namespace FrameChat.Operation

variable {σ α β : Type} {shows : Option Seconds → Prop}

/-- An operation that is run alone ends with a result while the clock shows what is allowed. -/
inductive EndsWhile (shows : Option Seconds → Prop) :
    Operation σ α → σ → Except Fault α → σ → Prop where
  | done {value : α} {state : σ} : EndsWhile shows (.done value) state (.ok value) state
  | abandoned {fault : Fault} {state : σ} :
      EndsWhile shows (.abandoned fault) state (.error fault) state
  | step {β : Type} {act : σ → β × σ} {next : β → Operation σ α} {state final : σ}
      {result : Except Fault α} :
      EndsWhile shows (next (act state).1) (act state).2 result final →
        EndsWhile shows (.step act next) state result final
  | clock {next : Option Seconds → Operation σ α} {state final : σ} {result : Except Fault α}
      {reading : Option Seconds} :
      shows reading → EndsWhile shows (next reading) state result final →
        EndsWhile shows (.clock next) state result final
  | drawing {sheet : Sheet} {next : Unit → Operation σ α} {state final : σ}
      {result : Except Fault α} :
      EndsWhile shows (next ()) state result final →
        EndsWhile shows (.drawing sheet next) state result final

theorem EndsWhile.ends {operation : Operation σ α} {state final : σ} {result : Except Fault α}
    (ends : EndsWhile shows operation state result final) : Ends operation state result final := by
  induction ends with
  | done => exact .done
  | abandoned => exact .abandoned
  | step _ ih => exact .step ih
  | clock _ _ ih => exact .clock _ ih
  | drawing _ ih => exact .drawing ih

/-- A clock that may show anything allows every end. -/
theorem Ends.endsWhile {operation : Operation σ α} {state final : σ} {result : Except Fault α}
    (ends : Ends operation state result final) :
    EndsWhile (fun _ => True) operation state result final := by
  induction ends with
  | done => exact .done
  | abandoned => exact .abandoned
  | step _ ih => exact .step ih
  | clock reading _ ih => exact .clock trivial ih
  | drawing _ ih => exact .drawing ih

/-- A steady operation is abandoned only if the clock may fail. -/
theorem Steady.shows_none {operation : Operation σ α} (steady : Steady operation)
    {state final : σ} {fault : Fault}
    (ends : EndsWhile shows operation state (.error fault) final) : shows none := by
  generalize ended : Except.error fault = result at ends
  induction ends with
  | done => cases ended
  | abandoned => exact steady.elim
  | step _ ih => exact ih (steady _) ended
  | @clock _ _ _ _ reading allowed _ ih =>
      cases reading with
      | none => exact allowed
      | some time => exact ih (steady time) ended
  | drawing _ ih => exact ih steady ended

namespace EndsWhile

theorem pure {value : α} {state final : σ} {result : Except Fault α}
    (ends : EndsWhile shows (pure value) state result final) :
    result = .ok value ∧ final = state := by
  cases ends with
  | done => exact ⟨rfl, rfl⟩

theorem act_bind {change : σ → α × σ} {rest : α → Operation σ β} {state final : σ}
    {result : Except Fault β} (ends : EndsWhile shows (act change >>= rest) state result final) :
    EndsWhile shows (rest (change state).1) (change state).2 result final := by
  cases ends with
  | step last => exact last

theorem ask_bind {question : σ → α} {rest : α → Operation σ β} {state final : σ}
    {result : Except Fault β}
    (ends : EndsWhile shows (ask question >>= rest) state result final) :
    EndsWhile shows (rest (question state)) state result final :=
  @act_bind σ α β shows (fun state => (question state, state)) rest state final result ends

/-- If the clock cannot be read nothing has changed. -/
theorem now {state final : σ} {result : Except Fault Seconds}
    (ends : EndsWhile shows now state result final) : final = state := by
  cases ends with
  | @clock _ _ _ _ reading _ rest =>
      cases reading with
      | none =>
          cases rest with
          | abandoned => rfl
      | some time =>
          cases rest with
          | done => rfl

/-- Of two operations in a row the first was abandoned, or the second begins where it ended. -/
theorem bind {first : Operation σ α} {rest : α → Operation σ β} {state final : σ}
    {result : Except Fault β} (ends : EndsWhile shows (first >>= rest) state result final) :
    (∃ fault, result = .error fault ∧ EndsWhile shows first state (.error fault) final) ∨
      ∃ value middle, EndsWhile shows first state (.ok value) middle ∧
        EndsWhile shows (rest value) middle result final := by
  change EndsWhile shows (first.bind rest) state result final at ends
  induction first generalizing state with
  | done value => exact .inr ⟨value, state, .done, ends⟩
  | abandoned fault =>
      cases ends with
      | abandoned => exact .inl ⟨fault, rfl, .abandoned⟩
  | step act next ih =>
      cases ends with
      | step after =>
          rcases ih _ after with ⟨fault, failed, head⟩ | ⟨value, middle, head, tail⟩
          · exact .inl ⟨fault, failed, .step head⟩
          · exact .inr ⟨value, middle, .step head, tail⟩
  | clock next ih =>
      cases ends with
      | clock allowed after =>
          rcases ih _ after with ⟨fault, failed, head⟩ | ⟨value, middle, head, tail⟩
          · exact .inl ⟨fault, failed, .clock allowed head⟩
          · exact .inr ⟨value, middle, .clock allowed head, tail⟩
  | drawing sheet next ih =>
      cases ends with
      | drawing after =>
          rcases ih _ after with ⟨fault, failed, head⟩ | ⟨value, middle, head, tail⟩
          · exact .inl ⟨fault, failed, .drawing head⟩
          · exact .inr ⟨value, middle, .drawing head, tail⟩

/-- An attempt ends where its operation does, with what it ended with. -/
theorem attempt {operation : Operation σ α} {state final : σ}
    {result : Except Fault (Except Fault α)}
    (ends : EndsWhile shows operation.attempt state result final) :
    ∃ answer, result = .ok answer ∧ EndsWhile shows operation state answer final := by
  induction operation generalizing state with
  | done value =>
      cases ends with
      | done => exact ⟨.ok value, rfl, .done⟩
  | abandoned fault =>
      cases ends with
      | done => exact ⟨.error fault, rfl, .abandoned⟩
  | step act next ih =>
      cases ends with
      | step after =>
          rcases ih _ after with ⟨answer, same, head⟩
          exact ⟨answer, same, .step head⟩
  | clock next ih =>
      cases ends with
      | clock allowed after =>
          rcases ih _ after with ⟨answer, same, head⟩
          exact ⟨answer, same, .clock allowed head⟩
  | drawing sheet next ih =>
      cases ends with
      | drawing after =>
          rcases ih _ after with ⟨answer, same, head⟩
          exact ⟨answer, same, .drawing head⟩

end EndsWhile

end FrameChat.Operation
