import FrameChat.Proofs.RecentSet
import FrameChat.Token.Guard

/-!
# What a guard is called for

A guard is called for tokens and for judgements on them, in any order.  Of all calls only
those count for the set of spent tokens that present a token for the right binding and in
time: they make its payload the newest one that the guard has met.  The spent tokens are so
given by the history of these payloads and the capacity of the set.

* `validate_cases`: all that a guard can do with a presented text.
* `payload?_issue`: what a guard opens of a token that it issued.
* `spent_run`: the spent tokens after any calls.
-/

namespace FrameChat.Token

/-- What a guard is called for. -/
inductive Call where
  /-- a token is to be issued, with random bytes -/
  | issue (binding : String) (now : UInt64) (nonce : Vector UInt8 Cipher.Seal.nonceLength)
  /-- a text is presented as a token -/
  | validate (token binding : String) (now : UInt64)

namespace Guard

/-- The guard after a call. -/
def step (guard : Guard) : Call → Guard
  | .issue binding now nonce => (guard.issue binding now.toNat nonce.toList).2
  | .validate token binding now => (guard.validate token binding now.toNat).2

/-- The guard after several calls. -/
def run (guard : Guard) (calls : List Call) : Guard :=
  calls.foldl step guard

/-- A presented text holds a payload for the binding that is not too old. -/
structure Passes (guard : Guard) (token binding : String) (now : Nat) (payload : Payload) :
    Prop where
  opened : guard.payload? token = some payload
  bound : payload.binding = bindingHash binding
  young : age payload now ≤ maxAge

/-- The payload that a call spends or finds spent. -/
def met (guard : Guard) : Call → Option Payload
  | .issue .. => none
  | .validate token binding now =>
      match (guard.validate token binding now.toNat).1 with
      | .ok () | .error .replayed => guard.payload? token
      | .error _ => none

/-- The payloads that calls spend or find spent, in their order. -/
def history (guard : Guard) : List Call → List Payload
  | [] => []
  | call :: rest => (guard.met call).toList ++ (guard.step call).history rest

/-- One of the calls presents a text of a kind, and it is accepted. -/
def Accepted (guard : Guard) (calls : List Call) (kind : String → Prop) : Prop :=
  ∃ earlier token binding now later,
    calls = earlier ++ .validate token binding now :: later ∧ kind token ∧
      ((guard.run earlier).validate token binding now.toNat).1 = .ok ()

variable {guard : Guard} {token binding : String} {now : Nat} {payload : Payload}

/-! ## Judging one text -/

/-- A text that passes makes its payload the newest, and is accepted unless that was spent. -/
theorem Passes.validate (passes : guard.Passes token binding now payload) :
    guard.validate token binding now =
      (if guard.spent.contains payload then .error .replayed else .ok (),
        { guard with spent := guard.spent.refresh payload }) := by
  have young : ¬maxAge < age payload now := Nat.not_lt.mpr passes.young
  rw [Guard.validate, passes.opened]
  simp only [spend]
  rw [if_neg (not_not.mpr passes.bound), if_neg young]

theorem Passes.unique {other : Payload} (passes : guard.Passes token binding now payload)
    (opened : guard.payload? token = some other) : other = payload :=
  Option.some.inj (opened.symm.trans passes.opened)

/-- A text passes, or it is refused for another reason than being spent and changes nothing. -/
theorem validate_cases (guard : Guard) (token binding : String) (now : Nat) :
    (∃ payload, guard.Passes token binding now payload) ∨
      ∃ refusal, refusal ≠ .replayed ∧
        guard.validate token binding now = (.error refusal, guard) := by
  rw [Guard.validate]
  cases opened : guard.payload? token with
  | none => exact .inr ⟨.malformed, by simp, rfl⟩
  | some payload =>
      simp only [spend]
      by_cases bound : payload.binding = bindingHash binding
      · by_cases young : age payload now ≤ maxAge
        · exact .inl ⟨payload, opened, bound, young⟩
        · refine .inr ⟨.expired (age payload now), by simp, ?_⟩
          rw [if_neg (not_not.mpr bound), if_pos (Nat.lt_of_not_le young)]
      · refine .inr ⟨.identityMismatch, by simp, ?_⟩
        rw [if_pos bound]

theorem passes_of_accepted (accepted : (guard.validate token binding now).1 = .ok ()) :
    ∃ payload, guard.Passes token binding now payload := by
  rcases validate_cases guard token binding now with passing | ⟨refusal, -, refused⟩
  · exact passing
  · rw [refused] at accepted
    cases accepted

theorem passes_of_replayed
    (replayed : (guard.validate token binding now).1 = .error .replayed) :
    ∃ payload, guard.Passes token binding now payload ∧
      guard.spent.contains payload = true := by
  rcases validate_cases guard token binding now with ⟨payload, passes⟩ | ⟨refusal, other, refused⟩
  · refine ⟨payload, passes, ?_⟩
    by_contra unspent
    rw [passes.validate, if_neg unspent] at replayed
    cases replayed
  · rw [refused] at replayed
    exact absurd (Except.error.inj replayed) other

/-- Judging a text changes nothing but the spent tokens. -/
theorem exists_spent_of_validate (guard : Guard) (token binding : String) (now : Nat) :
    ∃ spent, (guard.validate token binding now).2 = { guard with spent } := by
  rcases validate_cases guard token binding now with ⟨payload, passes⟩ | ⟨refusal, -, refused⟩
  · exact ⟨_, congrArg Prod.snd passes.validate⟩
  · exact ⟨guard.spent, congrArg Prod.snd refused⟩

theorem met_of_passes {now : UInt64} (passes : guard.Passes token binding now.toNat payload) :
    guard.met (.validate token binding now) = some payload := by
  rw [met, passes.validate, passes.opened]
  by_cases spent : guard.spent.contains payload = true
  · rw [if_pos spent]
  · rw [if_neg spent]

theorem met_of_refused {now : UInt64} {refusal : Refusal} (other : refusal ≠ .replayed)
    (refused : guard.validate token binding now.toNat = (.error refusal, guard)) :
    guard.met (.validate token binding now) = none := by
  rw [met, refused]
  cases refusal <;> simp_all

/-! ## Opening what was sealed -/

/-- What a text holds depends on the key alone. -/
theorem payload?_of_key {other : Guard} (same : guard.key = other.key) (token : String) :
    guard.payload? token = other.payload? token := by
  rw [payload?, payload?, same]

/-- What was sealed under the key of a guard is opened by it. -/
theorem payload?_sealPayload (guard : Guard) {nonce : Bytes} {payload : Payload}
    (nonceLength : nonce.length = Cipher.Seal.nonceLength) (four : payload.binding.length = 4) :
    guard.payload? (sealPayload guard.key nonce payload) = some payload := by
  have size : payload.bytes.length = Payload.byteLength := by
    simp [Payload.bytes, Payload.byteLength, four]
  have whole : (nonce ++ Cipher.Seal.encrypt guard.key nonce payload.bytes).length =
      sealedLength := by
    rw [List.length_append, Cipher.Seal.length_encrypt, nonceLength, size, sealedLength,
      Cipher.Seal.tagLength, Nat.add_assoc]
  have bytes : Text.Hex.decode? (sealPayload guard.key nonce payload) =
      some (nonce ++ Cipher.Seal.encrypt guard.key nonce payload.bytes) := by
    rw [sealPayload, Text.Hex.encode, Text.Hex.decode?, String.toList_ofList,
      Text.Hex.decodeChars_encodeChars]
  rw [payload?, bytes]
  simp only [Option.bind_eq_bind, Option.bind_some]
  rw [if_pos whole, List.take_left' nonceLength, List.drop_left' nonceLength,
    Cipher.Seal.decrypt?_encrypt, Option.bind_some, Payload.ofBytes?_bytes four]

/-- A token is opened as the payload that it was issued with. -/
theorem payload?_issue (guard : Guard) (binding : String) (now : Nat)
    (nonce : Vector UInt8 Cipher.Seal.nonceLength) :
    guard.payload? (guard.issue binding now nonce.toList).1 =
      some (guard.payloadFor binding now) :=
  payload?_sealPayload guard (by simp) (length_bindingHash binding)

/-! ## Several calls -/

@[simp]
theorem key_step (guard : Guard) (call : Call) : (guard.step call).key = guard.key := by
  cases call with
  | issue binding now nonce => rfl
  | validate token binding now =>
      rcases exists_spent_of_validate guard token binding now.toNat with ⟨spent, after⟩
      rw [step, after]

@[simp]
theorem key_run (guard : Guard) (calls : List Call) : (guard.run calls).key = guard.key := by
  induction calls generalizing guard with
  | nil => rfl
  | cons call rest ih => exact (ih (guard.step call)).trans (key_step guard call)

@[simp]
theorem payload?_run (guard : Guard) (calls : List Call) (token : String) :
    (guard.run calls).payload? token = guard.payload? token :=
  payload?_of_key (key_run guard calls) token

/-- A call makes the payload that it meets the newest of the spent ones. -/
theorem spent_step (guard : Guard) (call : Call) :
    (guard.step call).spent = guard.spent.refreshAll (guard.met call).toList := by
  cases call with
  | issue binding now nonce => rfl
  | validate token binding now =>
      rcases validate_cases guard token binding now.toNat with
        ⟨payload, passes⟩ | ⟨refusal, other, refused⟩
      · rw [step, passes.validate, met_of_passes passes]
        rfl
      · rw [step, refused, met_of_refused other refused]
        rfl

/-- The spent tokens are those that a set of their capacity remembers of the history. -/
theorem spent_run (guard : Guard) (calls : List Call) :
    (guard.run calls).spent = guard.spent.refreshAll (guard.history calls) := by
  induction calls generalizing guard with
  | nil => rfl
  | cons call rest ih =>
      have first := spent_step guard call
      have others := ih (guard.step call)
      rw [first] at others
      rw [history, RecentSet.refreshAll, List.foldl_append]
      exact others

theorem spent_run_new (key : Bytes) (capacity : Nat) (calls : List Call) :
    ((new key capacity).run calls).spent =
      (RecentSet.empty capacity).refreshAll ((new key capacity).history calls) :=
  spent_run (new key capacity) calls

theorem history_append (guard : Guard) (calls further : List Call) :
    guard.history (calls ++ further) =
      guard.history calls ++ (guard.run calls).history further := by
  induction calls generalizing guard with
  | nil => rfl
  | cons call rest ih =>
      rw [List.cons_append, history, history, ih, List.append_assoc]
      rfl

theorem history_snoc (guard : Guard) (calls : List Call) (call : Call) :
    guard.history (calls ++ [call]) =
      guard.history calls ++ ((guard.run calls).met call).toList := by
  rw [history_append, history, history, List.append_nil]

theorem Accepted.append {calls : List Call} {kind : String → Prop}
    (accepted : guard.Accepted calls kind) (further : List Call) :
    guard.Accepted (calls ++ further) kind := by
  rcases accepted with ⟨earlier, token, binding, now, later, rfl, shown, verdict⟩
  exact ⟨earlier, token, binding, now, later ++ further, by simp, shown, verdict⟩

end Guard

end FrameChat.Token
