import FrameChat.Proofs.Operation.Whole

/-!
# Operations amid others

Between two steps of an operation others may change the state.  `EndsAmid` says
with what value an operation may end then, and which state its last step leaves;
a relation tells what the others may do between two steps.  An operation that is
run alone is one amid others that do nothing (`Ends.amid`).
-/

namespace FrameChat.Operation

variable {σ α β : Type} {others : σ → σ → Prop}

/-- An operation ends with a value amid others, and its last step leaves a state. -/
inductive EndsAmid (others : σ → σ → Prop) : Operation σ α → σ → α → σ → Prop where
  | done {value : α} {state : σ} : EndsAmid others (.done value) state value state
  | step {β : Type} {act : σ → β × σ} {next : β → Operation σ α} {state met final : σ} {value : α} :
      others state met → EndsAmid others (next (act met).1) (act met).2 value final →
        EndsAmid others (.step act next) state value final
  | clock {next : Option Seconds → Operation σ α} {state final : σ} {value : α}
      (reading : Option Seconds) :
      EndsAmid others (next reading) state value final →
        EndsAmid others (.clock next) state value final
  | drawing {sheet : Sheet} {next : Unit → Operation σ α} {state final : σ} {value : α} :
      EndsAmid others (next ()) state value final →
        EndsAmid others (.drawing sheet next) state value final

theorem Ends.amid (idle : ∀ state, others state state) {operation : Operation σ α}
    {state final : σ} {value : α} (ends : Ends operation state (.ok value) final) :
    EndsAmid others operation state value final := by
  generalize ended : Except.ok value = result at ends
  induction ends with
  | done =>
      cases ended
      exact .done
  | abandoned => cases ended
  | step _ ih => exact .step (idle _) (ih ended)
  | clock reading _ ih => exact .clock reading (ih ended)
  | drawing _ ih => exact .drawing (ih ended)

namespace EndsAmid

theorem pure {value result : α} {state final : σ}
    (ends : EndsAmid others (Pure.pure value) state result final) :
    result = value ∧ final = state := by
  cases ends with
  | done => exact ⟨rfl, rfl⟩

theorem act {change : σ → α × σ} {state final : σ} {result : α}
    (ends : EndsAmid others (Operation.act change) state result final) :
    ∃ met, others state met ∧ change met = (result, final) := by
  cases ends with
  | step between rest =>
      cases rest with
      | done => exact ⟨_, between, rfl⟩

theorem ask {question : σ → α} {state final : σ} {result : α}
    (ends : EndsAmid others (Operation.ask question) state result final) :
    others state final ∧ question final = result := by
  rcases @EndsAmid.act σ α others (fun state => (question state, state)) state final result ends with
    ⟨met, between, same⟩
  cases same
  exact ⟨between, rfl⟩

/-- Of two operations in a row, the second begins where the first ended. -/
theorem bind {first : Operation σ α} {rest : α → Operation σ β} {state final : σ} {result : β}
    (ends : EndsAmid others (first >>= rest) state result final) :
    ∃ value middle, EndsAmid others first state value middle ∧
      EndsAmid others (rest value) middle result final := by
  change EndsAmid others (first.bind rest) state result final at ends
  induction first generalizing state with
  | done value => exact ⟨value, state, .done, ends⟩
  | abandoned fault => cases ends
  | step act next ih =>
      cases ends with
      | step between after =>
          rcases ih _ after with ⟨value, middle, head, tail⟩
          exact ⟨value, middle, .step between head, tail⟩
  | clock next ih =>
      cases ends with
      | clock reading after =>
          rcases ih _ after with ⟨value, middle, head, tail⟩
          exact ⟨value, middle, .clock reading head, tail⟩
  | drawing sheet next ih =>
      cases ends with
      | drawing after =>
          rcases ih _ after with ⟨value, middle, head, tail⟩
          exact ⟨value, middle, .drawing head, tail⟩

theorem now {state final : σ} {reading : Seconds}
    (ends : EndsAmid others Operation.now state reading final) : final = state := by
  cases ends with
  | clock shown rest =>
      cases shown with
      | none => cases rest
      | some time =>
          cases rest with
          | done => rfl

/-- What every step and all that the others do have in common, the whole has too. -/
theorem obeys (idle : ∀ state, others state state)
    (chained : ∀ {first second third : σ}, others first second → others second third →
      others first third)
    {operation : Operation σ α} {state final : σ} {value : α}
    (ends : EndsAmid others operation state value final) (obeys : Obeys others operation) :
    others state final := by
  induction ends with
  | done => exact idle _
  | step between _ ih => exact chained between (chained (obeys.1 _) (ih (obeys.2 _)))
  | clock reading _ ih => exact ih (obeys reading)
  | drawing _ ih => exact ih obeys

end EndsAmid

end FrameChat.Operation
