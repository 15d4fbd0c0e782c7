import FrameChat.Proofs.Token.Runs

/-!
# Tokens that are spent once

A token that was accepted is refused as long as the guard remembers its payload.  A payload
is met for the first time when a token that holds it is accepted, and each later
presentation that passes makes it the newest again.  So it is remembered until as many other
payloads as the guard can remember were met after it.

* `mem_history_iff`: a payload was met exactly if a token that holds it was accepted.
* `spent_once`: what a presented text does to the spent tokens, and when it counts as spent.
-/

namespace FrameChat.Token.Guard

variable {payload : Payload}

/-- A payload was met exactly if a text that holds it was accepted. -/
theorem mem_history_iff {key : Bytes} {capacity : Nat} {calls : List Call} :
    payload ∈ (new key capacity).history calls ↔
      (new key capacity).Accepted calls
        (fun token => (new key capacity).payload? token = some payload) := by
  constructor
  · -- Along the calls: what a call meets is accepted there, or it was met before.
    intro member
    induction calls using List.reverseRecOn with
    | nil => cases member
    | append_singleton calls call ih =>
        rw [history_snoc, List.mem_append] at member
        rcases member with before | last
        · exact (ih before).append [call]
        cases call with
        | issue binding now nonce => cases last
        | validate token binding now =>
            rcases validate_cases ((new key capacity).run calls) token binding now.toNat with
              ⟨found, passes⟩ | ⟨refusal, other, refused⟩
            · rw [met_of_passes passes] at last
              obtain rfl := List.mem_singleton.mp last
              by_cases spent : ((new key capacity).run calls).spent.contains payload = true
              · rw [spent_run_new, RecentSet.contains_refreshAll] at spent
                exact (ih spent.1).append _
              · have opened := passes.opened
                rw [payload?_run] at opened
                refine ⟨calls, token, binding, now, [], rfl, opened, ?_⟩
                rw [passes.validate, if_neg spent]
            · rw [met_of_refused other refused] at last
              cases last
  · rintro ⟨earlier, token, binding, now, later, rfl, opened, accepted⟩
    rcases passes_of_accepted accepted with ⟨found, passes⟩
    obtain rfl := passes.unique ((payload?_run _ _ _).trans opened)
    rw [history_append, history, met_of_passes passes]
    simp

/--
The spent tokens are never more than the capacity.  A presented text adds its payload to them
only if it is accepted, and changes nothing if it is refused other than as spent.  A text
that passes is accepted or refused as spent.  It is refused as spent exactly if a text with
its payload was accepted before, and fewer payloads than the capacity, others than this one,
were accepted or found spent since this one was the last time.
-/
theorem spent_once (key : Bytes) (capacity : Nat) (calls : List Call) (token binding : String)
    (now : UInt64) :
    let fresh := new key capacity
    let guard := fresh.run calls
    let verdict := (guard.validate token binding now.toNat).1
    let after := (guard.validate token binding now.toNat).2
    guard.spent.size ≤ capacity ∧
      (∀ payload, after.spent.contains payload = true →
        guard.spent.contains payload = true ∨
          verdict = .ok () ∧ fresh.payload? token = some payload) ∧
      (∀ refusal, verdict = .error refusal → refusal ≠ .replayed → after = guard) ∧
      ∀ payload, guard.Passes token binding now.toNat payload →
        (verdict = .ok () ∨ verdict = .error .replayed) ∧
          (verdict = .error .replayed ↔
            fresh.Accepted calls (fun text => fresh.payload? text = some payload) ∧
              (RecentSet.metSince payload (fresh.history calls)).card < capacity) := by
  intro fresh guard verdict after
  have judged {payload : Payload} (passes : guard.Passes token binding now.toNat payload) :
      verdict = (if guard.spent.contains payload then .error .replayed else .ok ()) ∧
        after = { guard with spent := guard.spent.refresh payload } :=
    Prod.mk.inj passes.validate
  refine ⟨?_, ?_, ?_, ?_⟩
  · show guard.spent.size ≤ capacity
    rw [spent_run_new]
    exact RecentSet.size_refreshAll_le capacity _
  · intro payload remembered
    rcases validate_cases guard token binding now.toNat with
      ⟨found, passes⟩ | ⟨refusal, -, refused⟩
    · rw [(judged passes).2] at remembered
      rcases RecentSet.eq_or_contains_of_refresh remembered with rfl | before
      · by_cases spent : guard.spent.contains payload = true
        · exact .inl spent
        · refine .inr ⟨?_, payload?_run fresh calls token ▸ passes.opened⟩
          rw [(judged passes).1, if_neg spent]
      · exact .inl before
    · have unchanged : after = guard := congrArg Prod.snd refused
      exact .inl (unchanged ▸ remembered)
  · intro refusal refused other
    rcases validate_cases guard token binding now.toNat with
      ⟨found, passes⟩ | ⟨_, -, unchanged⟩
    · rw [(judged passes).1] at refused
      split at refused
      · exact absurd (Except.error.inj refused).symm other
      · cases refused
    · exact congrArg Prod.snd unchanged
  · intro payload passes
    have remembered : guard.spent.contains payload = true ↔
        fresh.Accepted calls (fun text => fresh.payload? text = some payload) ∧
          (RecentSet.metSince payload (fresh.history calls)).card < capacity := by
      rw [spent_run_new, RecentSet.contains_refreshAll, mem_history_iff]
    rw [(judged passes).1, ← remembered]
    by_cases spent : guard.spent.contains payload = true <;> simp [spent]

/-- A guard that remembers one spent token. -/
def forgetful : Guard :=
  .new (List.replicate 32 7) 1

/-- The first token of that guard. -/
def firstToken : String :=
  (forgetful.issue "alice" 1700000000 (Vector.replicate 24 1).toList).1

/-- The token is issued. -/
def firstCall : List Call :=
  [.issue "alice" 1700000000 (Vector.replicate 24 1)]

/-- The token is issued and accepted, and then it is refused as spent. -/
theorem spent_once_by_alice :
    let accepting := Call.validate firstToken "alice" 1700000005
    let guard := forgetful.run (firstCall ++ [accepting])
    guard.Passes firstToken "alice" 1700000006 (forgetful.payloadFor "alice" 1700000000) ∧
      (guard.validate firstToken "alice" 1700000006).1 = .error .replayed := by
  intro accepting guard
  have opened : forgetful.payload? firstToken = some (forgetful.payloadFor "alice" 1700000000) :=
    payload?_issue forgetful "alice" 1700000000 (Vector.replicate 24 1)
  have first : (forgetful.run firstCall).Passes firstToken "alice"
      (1700000005 : UInt64).toNat (forgetful.payloadFor "alice" 1700000000) :=
    ⟨(payload?_run _ _ _).trans opened, rfl, by decide +kernel⟩
  have again : guard.Passes firstToken "alice" 1700000006
      (forgetful.payloadFor "alice" 1700000000) :=
    ⟨(payload?_run _ _ _).trans opened, rfl, by decide +kernel⟩
  have accepted : forgetful.Accepted (firstCall ++ [accepting]) fun text =>
      forgetful.payload? text = some (forgetful.payloadFor "alice" 1700000000) :=
    ⟨firstCall, firstToken, "alice", 1700000005, [], rfl, opened, congrArg Prod.fst first.validate⟩
  have since : (RecentSet.metSince (forgetful.payloadFor "alice" 1700000000)
      (forgetful.history (firstCall ++ [accepting]))).card < 1 := by
    rw [history_snoc, met_of_passes first, Option.toList_some, RecentSet.metSince_snoc_self]
    decide
  exact ⟨again, ((spent_once (List.replicate 32 7) 1 _ firstToken "alice" 1700000006).2.2.2
    _ again).2.mpr ⟨accepted, since⟩⟩

end FrameChat.Token.Guard
