import FrameChat.Proofs.Text.LetterCase
import FrameChat.Proofs.Token.SingleUse

/-!
# Tokens that were not spent yet

A guard numbers its tokens with 32 bits, so that the payloads of so many tokens differ even
if they were issued for the same binding, in the same second and with the same random
bytes.  As long as no texts are presented that the guard can open and did not issue, a
payload is therefore spent only by the presentation of one token, in one letter case or
another, and a token that was not spent is accepted.

* `nodup_serials`: the numbers of the tokens that were issued.
* `unspent_token_is_accepted`: what becomes of a token that is presented.
-/

namespace FrameChat.Token

/-- A token, with what it was issued for. -/
structure Handed where
  binding : String
  time : UInt64
  serial : UInt32
  token : String

/-- What a token says. -/
def Handed.payload (handed : Handed) : Payload :=
  ⟨bindingHash handed.binding, UInt32.ofNat handed.time.toNat, handed.serial⟩

namespace Guard

variable {guard : Guard} {calls : List Call}

/-- The tokens that are issued at calls, in their order. -/
def issued (guard : Guard) : List Call → List Handed
  | [] => []
  | .issue binding time nonce :: rest =>
      ⟨binding, time, guard.nextSerial, (guard.issue binding time.toNat nonce.toList).1⟩ ::
        (guard.step (.issue binding time nonce)).issued rest
  | .validate token binding now :: rest =>
      (guard.step (.validate token binding now)).issued rest

/-- A text is opened in any letter case. -/
theorem payload?_of_toLower (guard : Guard) {token other : String}
    (same : token.toLower = other.toLower) : guard.payload? token = guard.payload? other := by
  rw [payload?, payload?, Text.Hex.decode?_of_toLower same]

theorem nextSerial_validate (guard : Guard) (token binding : String) (now : UInt64) :
    (guard.step (.validate token binding now)).nextSerial = guard.nextSerial := by
  rcases exists_spent_of_validate guard token binding now.toNat with ⟨spent, after⟩
  rw [step, after]

theorem payload?_of_issued {handed : Handed} (member : handed ∈ guard.issued calls) :
    guard.payload? handed.token = some handed.payload := by
  induction calls generalizing guard with
  | nil => cases member
  | cons call rest ih =>
      have later (among : handed ∈ (guard.step call).issued rest) :
          guard.payload? handed.token = some handed.payload :=
        (payload?_of_key (key_step guard call).symm _).trans (ih among)
      cases call with
      | issue binding time nonce =>
          rcases List.mem_cons.mp member with rfl | among
          · exact payload?_issue guard binding time.toNat nonce
          · exact later among
      | validate token binding now => exact later member

/-- The numbers of tokens count on from the next number of the guard. -/
theorem exists_index_of_issued {handed : Handed} (member : handed ∈ guard.issued calls) :
    ∃ index < (guard.issued calls).length,
      handed.serial = guard.nextSerial + UInt32.ofNat index := by
  induction calls generalizing guard with
  | nil => cases member
  | cons call rest ih =>
      cases call with
      | issue binding time nonce =>
          rcases List.mem_cons.mp member with rfl | among
          · exact ⟨0, Nat.succ_pos _, (UInt32.add_zero _).symm⟩
          · rcases ih among with ⟨index, bound, serial⟩
            refine ⟨index + 1, Nat.succ_lt_succ bound, ?_⟩
            rw [serial, UInt32.ofNat_add, UInt32.add_comm (UInt32.ofNat index), ← UInt32.add_assoc]
            rfl
      | validate token binding now =>
          have same := nextSerial_validate guard token binding now
          rw [← same]
          exact ih member

/-- As long as they are few, issued tokens have different numbers. -/
theorem nodup_serials (few : (guard.issued calls).length ≤ UInt32.size) :
    ((guard.issued calls).map Handed.serial).Nodup := by
  induction calls generalizing guard with
  | nil => exact List.nodup_nil
  | cons call rest ih =>
      cases call with
      | issue binding time nonce =>
          rw [issued, List.length_cons] at few
          rw [issued, List.map_cons, List.nodup_cons]
          refine ⟨?_, ih (Nat.le_of_succ_le few)⟩
          intro again
          rcases List.mem_map.mp again with ⟨handed, member, same⟩
          rcases exists_index_of_issued member with ⟨index, bound, serial⟩
          have numbers : (guard.nextSerial + 1 + UInt32.ofNat index).toNat =
              guard.nextSerial.toNat := congrArg UInt32.toNat (serial.symm.trans same)
          have range := guard.nextSerial.toNat_lt
          have wide : UInt32.size = 2 ^ 32 := rfl
          rw [UInt32.toNat_add, UInt32.toNat_add, UInt32.toNat_ofNat', UInt32.toNat_one] at numbers
          omega
      | validate token binding now => exact ih few

/-- Tokens that are opened as the same payload are the same token. -/
theorem eq_of_payload (few : (guard.issued calls).length ≤ UInt32.size) {one other : Handed}
    (oneIssued : one ∈ guard.issued calls) (otherIssued : other ∈ guard.issued calls)
    (same : guard.payload? one.token = guard.payload? other.token) : one = other := by
  rw [payload?_of_issued oneIssued, payload?_of_issued otherIssued, Option.some.injEq] at same
  exact List.inj_on_of_nodup_map (nodup_serials few) oneIssued otherIssued
    (congrArg Payload.serial same)

/-- The letter case does not make one issued token another. -/
theorem pairwise_toLower_ne (few : (guard.issued calls).length ≤ UInt32.size) :
    (guard.issued calls).Pairwise fun one other =>
      one.token.toLower ≠ other.token.toLower := by
  have serials := List.pairwise_map.mp (nodup_serials few)
  refine serials.imp_of_mem fun {one other} oneIssued otherIssued differ same => ?_
  have equal := eq_of_payload few oneIssued otherIssued (payload?_of_toLower guard same)
  exact differ (congrArg Handed.serial equal)

/-- A payload that is spent was spent by the token that was issued with it. -/
theorem accepted_of_contains {key : Bytes} {capacity : Nat} {calls earlier later : List Call}
    (split : calls = earlier ++ later)
    (few : ((new key capacity).issued calls).length ≤ UInt32.size)
    (genuine : ∀ token binding now, Call.validate token binding now ∈ calls →
      (new key capacity).payload? token ≠ none →
        ∃ handed ∈ (new key capacity).issued calls, token.toLower = handed.token.toLower)
    {handed : Handed} (member : handed ∈ (new key capacity).issued calls)
    (spent : ((new key capacity).run earlier).spent.contains handed.payload = true) :
    (new key capacity).Accepted earlier fun text =>
      text.toLower = handed.token.toLower := by
  rw [spent_run_new, RecentSet.contains_refreshAll, mem_history_iff] at spent
  rcases spent.1 with ⟨before, text, binding, now, after, rfl, opened, accepted⟩
  have presented : Call.validate text binding now ∈ calls := by simp [split]
  rcases genuine text binding now presented (by simp [opened]) with ⟨other, otherIssued, written⟩
  have same : (new key capacity).payload? other.token =
      (new key capacity).payload? handed.token := by
    rw [← payload?_of_toLower _ written, opened, payload?_of_issued member]
  obtain rfl := eq_of_payload few otherIssued member same
  exact ⟨before, text, binding, now, after, rfl, written, accepted⟩

/--
The tokens that a guard issues are different texts, in whatever letter case.  If it can open
only these of all texts that are presented to it, then for each presentation of such a
token, in any letter case:

* if the token was not accepted before, as at its first presentation, it is accepted for
  its own binding until a day has passed;
* it is refused as spent only if this very token was accepted before;
* it is accepted only for a binding with the hash of its own binding.
-/
theorem unspent_token_is_accepted
    {key : Bytes}
    {capacity : Nat}
    {calls : List Call}
    (few : ((new key capacity).issued calls).length < UInt32.size)
    (genuine : ∀ token binding now, Call.validate token binding now ∈ calls →
      (new key capacity).payload? token ≠ none →
        ∃ handed ∈ (new key capacity).issued calls, token.toLower = handed.token.toLower) :
    ((new key capacity).issued calls).Pairwise
        (fun one other => one.token.toLower ≠ other.token.toLower) ∧
      ∀ handed ∈ (new key capacity).issued calls, ∀ earlier token binding now later,
        calls = earlier ++ .validate token binding now :: later →
        token.toLower = handed.token.toLower →
          let verdict := (((new key capacity).run earlier).validate token binding now.toNat).1
          let acceptedBefore := (new key capacity).Accepted earlier fun text =>
            text.toLower = handed.token.toLower
          (binding = handed.binding → handed.time.toNat < UInt32.size → now.toNat < UInt32.size →
            now.toNat ≤ handed.time.toNat + 86400 → ¬acceptedBefore → verdict = .ok ()) ∧
          (verdict = .error .replayed → acceptedBefore) ∧
          (verdict = .ok () → bindingHash binding = bindingHash handed.binding) := by
  refine ⟨pairwise_toLower_ne (Nat.le_of_lt few), ?_⟩
  intro handed member earlier token binding now later split written verdict acceptedBefore
  have opened : ((new key capacity).run earlier).payload? token = some handed.payload := by
    rw [payload?_run, payload?_of_toLower _ written, payload?_of_issued member]
  have spent := accepted_of_contains split (Nat.le_of_lt few) genuine member
  refine ⟨?_, ?_, ?_⟩
  · rintro rfl issuedBound nowBound young unspent
    have passes : ((new key capacity).run earlier).Passes token handed.binding now.toNat
        handed.payload := by
      refine ⟨opened, rfl, ?_⟩
      have issuedAt : handed.payload.issuedAt.toNat = handed.time.toNat := by
        rw [Handed.payload, UInt32.toNat_ofNat', Nat.mod_eq_of_lt issuedBound]
      rw [age, issuedAt, UInt32.size, maxAge]
      omega
    show (Guard.validate _ _ _ _).1 = .ok ()
    rw [passes.validate, if_neg (mt spent unspent)]
  · intro replayed
    rcases passes_of_replayed replayed with ⟨payload, passes, remembered⟩
    exact spent (passes.unique opened ▸ remembered)
  · intro accepted
    rcases passes_of_accepted accepted with ⟨payload, passes⟩
    exact (passes.unique opened ▸ passes.bound).symm

/-- Two tokens for one binding, of one second and with the same random bytes. -/
def twinCalls : List Call :=
  List.replicate 2 (.issue "alice" 1700000000 (Vector.replicate 24 9))

/-- The first of the two tokens. -/
def elderTwin : String :=
  (forgetful.issue "alice" 1700000000 (Vector.replicate 24 9).toList).1

/-- The second of the two tokens. -/
def youngerTwin : String :=
  ((forgetful.run (twinCalls.take 1)).issue "alice" 1700000000 (Vector.replicate 24 9).toList).1

/-- After the first of the two was spent, the second is accepted at the end of its day. -/
theorem unspent_twin_is_accepted :
    let earlier := twinCalls ++ [.validate elderTwin "alice" 1700000001]
    let calls := earlier ++ [.validate youngerTwin "alice" 1700086400]
    (forgetful.issued calls).length < UInt32.size ∧
      (∀ token binding now, Call.validate token binding now ∈ calls →
        forgetful.payload? token ≠ none →
          ∃ handed ∈ forgetful.issued calls, token.toLower = handed.token.toLower) ∧
      ((forgetful.run earlier).validate youngerTwin "alice" 1700086400).1 = .ok () := by
  intro earlier calls
  have handed : forgetful.issued calls =
      [⟨"alice", 1700000000, 0, elderTwin⟩, ⟨"alice", 1700000000, 1, youngerTwin⟩] := rfl
  have few : (forgetful.issued calls).length < UInt32.size := by
    rw [handed]
    decide
  have genuine : ∀ token binding now, Call.validate token binding now ∈ calls →
      forgetful.payload? token ≠ none →
        ∃ handed ∈ forgetful.issued calls, token.toLower = handed.token.toLower := by
    intro token binding now member _
    rw [handed]
    have either : token = elderTwin ∨ token = youngerTwin := by
      simp only [calls, earlier, twinCalls, List.mem_append, List.mem_replicate,
        List.mem_singleton, Call.validate.injEq, reduceCtorEq, and_false, false_or] at member
      exact member.imp And.left And.left
    rcases either with rfl | rfl <;> simp
  rcases unspent_token_is_accepted few genuine with ⟨apart, judged⟩
  change (forgetful.issued calls).Pairwise _ at apart
  rw [handed, List.pairwise_pair] at apart
  have unspent : ¬forgetful.Accepted earlier fun text =>
      text.toLower = youngerTwin.toLower := by
    rintro ⟨before, text, binding, now, after, split, written, -⟩
    have member : Call.validate text binding now ∈ earlier := by simp [split]
    simp only [earlier, twinCalls, List.mem_append, List.mem_replicate, List.mem_singleton,
      Call.validate.injEq, reduceCtorEq, and_false, false_or] at member
    exact apart (member.1 ▸ written)
  have younger : ⟨"alice", 1700000000, 1, youngerTwin⟩ ∈ forgetful.issued calls := by
    rw [handed]
    simp
  exact ⟨few, genuine, (judged _ younger earlier youngerTwin "alice" 1700086400 [] rfl rfl).1 rfl
    (by decide) (by decide) (by decide) unspent⟩

end Guard

end FrameChat.Token
