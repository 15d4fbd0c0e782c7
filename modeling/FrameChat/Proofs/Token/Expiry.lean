import FrameChat.Proofs.Token.SingleUse

/-!
# How old tokens count as

Of the second in which a token was issued, and of the present one, only the lowest 32 bits
count, and a token that seems to be issued later counts as new.  A token so never counts
as older than it is.  It counts as exactly as old as long as the bits above stay the same,
but whenever they change it is as good as new, and what it counts as starts again below
its age.

* `age_of_within`, `age_of_wrapped`: what a token counts as.
* `expired_iff`: when a token is refused as too old, and with which age.
-/

namespace FrameChat.Token.Guard

variable {payload : Payload} {issued now : Nat}

/-! ## Counting in 32 bits -/

/-- A token counts as no older than it is. -/
theorem age_le (issuedAt : payload.issuedAt = UInt32.ofNat issued) (later : issued ≤ now) :
    age payload now ≤ now - issued := by
  have width : UInt32.size = 2 ^ 32 := rfl
  rw [age, issuedAt, UInt32.toNat_ofNat', width]
  omega

/-- A token that does not seem to be issued later counts as old as it is, less whole periods. -/
theorem age_of_within (issuedAt : payload.issuedAt = UInt32.ofNat issued) (later : issued ≤ now)
    (within : issued % UInt32.size ≤ now % UInt32.size) :
    age payload now = (now - issued) % UInt32.size := by
  have width : UInt32.size = 2 ^ 32 := rfl
  rw [width] at within
  rw [age, issuedAt, UInt32.toNat_ofNat', width]
  omega

theorem age_of_wrapped (issuedAt : payload.issuedAt = UInt32.ofNat issued)
    (wrapped : now % UInt32.size < issued % UInt32.size) : age payload now = 0 := by
  have width : UInt32.size = 2 ^ 32 := rfl
  rw [width] at wrapped
  rw [age, issuedAt, UInt32.toNat_ofNat', width]
  omega

/-- As long as the upper bits stay the same, no period has passed. -/
theorem within_of_samePeriod (later : issued ≤ now)
    (same : now / UInt32.size = issued / UInt32.size) :
    issued % UInt32.size ≤ now % UInt32.size ∧ (now - issued) % UInt32.size = now - issued := by
  have width : UInt32.size = 2 ^ 32 := rfl
  rw [width] at same ⊢
  omega

/-! ## Verdicts on a token for the right binding -/

section Verdicts

variable {guard : Guard} {token binding : String}

theorem validate_of_opened (opened : guard.payload? token = some payload)
    (bound : payload.binding = bindingHash binding) :
    (guard.validate token binding now).1 =
      if maxAge < age payload now then .error (.expired (age payload now))
      else if guard.spent.contains payload then .error .replayed else .ok () := by
  rw [validate, opened]
  simp only [spend]
  rw [if_neg (not_not.mpr bound), apply_ite Prod.fst]

/-- A token is refused as too old exactly if it counts as more than a day old. -/
theorem validate_eq_expired_iff (opened : guard.payload? token = some payload)
    (bound : payload.binding = bindingHash binding) (seconds : Nat) :
    (guard.validate token binding now).1 = .error (.expired seconds) ↔
      maxAge < seconds ∧ seconds = age payload now := by
  rw [validate_of_opened opened bound]
  by_cases old : maxAge < age payload now
  · rw [if_pos old, Except.error.injEq, Refusal.expired.injEq]
    constructor
    · rintro rfl
      exact ⟨old, rfl⟩
    · rintro ⟨-, rfl⟩
      rfl
  · rw [if_neg old]
    constructor
    · intro expired
      split at expired <;> cases expired
    · rintro ⟨above, rfl⟩
      exact absurd above old

end Verdicts

/--
A token is presented with its own binding, no earlier than it was issued, and whatever
happened meanwhile.  It is refused as too old exactly if the seconds since its issue, counted
modulo `UInt32.size`, are more than a day's and the present is not before the second of issue
in the lowest 32 bits.  These seconds are then reported, and they are never more than really
passed.  As long as the bits above stay the same, that is exactly if more than a day passed.
A token that is not spent is otherwise accepted, however old it is.
-/
theorem expired_iff (guard : Guard) (binding : String) {issued now : UInt64}
    (nonce : Vector UInt8 Cipher.Seal.nonceLength) (calls : List Call) (later : issued ≤ now) :
    let token := (guard.issue binding issued.toNat nonce.toList).1
    let present := guard.run (.issue binding issued nonce :: calls)
    let verdict := (present.validate token binding now.toNat).1
    let passed := now.toNat - issued.toNat
    (∀ seconds, verdict = .error (.expired seconds) ↔
      86400 < seconds ∧ seconds = passed % UInt32.size ∧
        issued.toNat % UInt32.size ≤ now.toNat % UInt32.size) ∧
      (∀ seconds, verdict = .error (.expired seconds) → seconds ≤ passed) ∧
      (now.toNat / UInt32.size = issued.toNat / UInt32.size → ∀ seconds,
        verdict = .error (.expired seconds) ↔ 86400 < passed ∧ seconds = passed) ∧
      (present.spent.contains (guard.payloadFor binding issued.toNat) = false →
        verdict = .ok () ∨ ∃ seconds, verdict = .error (.expired seconds)) := by
  intro token present verdict passed
  let payload := guard.payloadFor binding issued.toNat
  have opened : present.payload? token = some payload :=
    (payload?_run guard _ token).trans (payload?_issue guard binding issued.toNat nonce)
  have notLater : issued.toNat ≤ now.toNat := UInt64.le_iff_toNat_le.mp later
  have refused (seconds : Nat) : verdict = .error (.expired seconds) ↔
      86400 < seconds ∧ seconds = age payload now.toNat :=
    validate_eq_expired_iff opened rfl seconds
  have counted (seconds : Nat) : verdict = .error (.expired seconds) ↔
      86400 < seconds ∧ seconds = passed % UInt32.size ∧
        issued.toNat % UInt32.size ≤ now.toNat % UInt32.size := by
    rw [refused]
    by_cases within : issued.toNat % UInt32.size ≤ now.toNat % UInt32.size
    · rw [age_of_within rfl notLater within]
      exact and_congr_right fun _ => (and_iff_left within).symm
    · rw [age_of_wrapped rfl (Nat.lt_of_not_le within)]
      refine iff_of_false ?_ fun same => within same.2.2
      rintro ⟨above, rfl⟩
      exact Nat.not_lt_zero _ above
  refine ⟨counted, ?_, ?_, ?_⟩
  · intro seconds expired
    rw [((refused seconds).mp expired).2]
    exact age_le rfl notLater
  · intro same seconds
    rcases within_of_samePeriod notLater same with ⟨within, whole⟩
    rw [counted, whole]
    constructor
    · rintro ⟨above, rfl, -⟩
      exact ⟨above, rfl⟩
    · rintro ⟨above, rfl⟩
      exact ⟨above, rfl, within⟩
  · intro unspent
    have judged : verdict = _ := validate_of_opened opened rfl
    rw [unspent] at judged
    by_cases old : maxAge < age payload now.toNat
    · exact .inr ⟨_, judged.trans (if_pos old)⟩
    · exact .inl (judged.trans (if_neg old))

/-- A second after its day a token is refused, although it was never used. -/
theorem expired_iff_after_its_day :
    let issue := Call.issue "alice" 1700000000 (Vector.replicate 24 2)
    let token := (forgetful.issue "alice" 1700000000 (Vector.replicate 24 2).toList).1
    (1700000000 : UInt64) ≤ 1700086401 ∧
      ((forgetful.run [issue]).validate token "alice" 1700086401).1 =
        .error (.expired 86401) := by
  intro issue token
  have later : (1700000000 : UInt64) ≤ 1700086401 := by decide
  rcases expired_iff forgetful "alice" (Vector.replicate 24 2) [] later with ⟨-, -, timely, -⟩
  exact ⟨later, (timely (by decide) 86401).mpr ⟨by decide, by decide⟩⟩

/--
A token that was issued six seconds before the lowest 32 bits of the clock begin again is
accepted ten seconds after its day, although it is as old as that and was never used before.
-/
theorem old_token_is_accepted :
    let issue := Call.issue "alice" 4294967290 (Vector.replicate 24 2)
    let token := (forgetful.issue "alice" 4294967290 (Vector.replicate 24 2).toList).1
    let present := forgetful.run [issue]
    (4294967290 : UInt64) ≤ 4295053700 ∧ 86400 < 4295053700 - 4294967290 ∧
      present.spent.contains (forgetful.payloadFor "alice" 4294967290) = false ∧
      (present.validate token "alice" 4295053700).1 = .ok () := by
  intro issue token present
  have opened : present.payload? token = some (forgetful.payloadFor "alice" 4294967290) :=
    (payload?_run forgetful [issue] token).trans
      (payload?_issue forgetful "alice" 4294967290 (Vector.replicate 24 2))
  have wrapped : 4295053700 % UInt32.size < 4294967290 % UInt32.size := by decide
  have asNew : age (forgetful.payloadFor "alice" 4294967290) 4295053700 = 0 :=
    age_of_wrapped rfl wrapped
  refine ⟨by decide, by decide, rfl, ?_⟩
  rw [validate_of_opened opened rfl, asNew]
  rfl

end FrameChat.Token.Guard
