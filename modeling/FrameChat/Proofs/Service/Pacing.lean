import FrameChat.Proofs.Intake.Cooldowns
import FrameChat.Proofs.Operation.Upheld
import FrameChat.Proofs.Service.Footprints
import FrameChat.Proofs.Service.Requests

/-!
# The pace of submissions

Of all that a submission does only its first step looks at the addresses that have to wait,
and that step alone changes them.  So what becomes of submissions, one after the other and
with anything else between them, is that some of their addresses are let pass and the others
are not, as the list of addresses decides (`Submissions.paced`).

`Submissions.cooldown_law` says exactly which ones are let pass.  Those that are not leave no
trace: without them the service would be the same.
-/

namespace FrameChat.Service

open Operation

/-- A view of a service sees neither channels nor the archive, and no faces. -/
structure Roomless {τ : Type} (view : Service → τ) : Prop where
  channels : ∀ service channels, view { service with channels } = view service
  archive : ∀ (service : Service) archive, view { service with archive } = view service
  faceless : Faceless view

namespace Roomless

variable {τ : Type} {view : Service → τ}

theorem refresh (roomless : Roomless view) (index : Nat) : Keeps view (refresh index) :=
  keeps_refresh_of roomless.faceless (fun service _ => roomless.channels service _)
    fun service _ _ _ => roomless.channels service _

theorem append (roomless : Roomless view) (index : Nat) (message : Message) :
    Keeps view (append index message) := by
  refine Keeps.bind Keeps.now fun now => ?_
  refine Keeps.bind (Keeps.act fun service => roomless.channels service _) fun recorded => ?_
  exact keeps_persist view roomless.archive index now recorded

theorem post (roomless : Roomless view) (index : Nat) (message : Message) :
    Keeps view (post index message) := by
  refine Keeps.bind (roomless.append index message) fun answer => ?_
  have redrawn (reply : Except Refused Accepted) :
      Keeps view (do discard (Service.refresh index); return reply) :=
    Keeps.bind (keeps_discard (roomless.refresh index)) fun _ => Keeps.pure _
  cases answer with
  | ok numbered => exact redrawn _
  | error fault =>
      cases fault with
      | closed => exact Keeps.pure _
      | archive fault => exact redrawn _

end Roomless

/-- What decides whether an address is let pass. -/
def pacing (service : Service) : Intake.Limits × Intake.Cooldowns × Nat :=
  (service.intake.limits, service.intake.cooldowns, service.uptime)

theorem roomless_pacing : Roomless pacing :=
  ⟨fun _ _ => rfl, fun _ _ => rfl, fun _ _ => rfl⟩

theorem keeps_pacing_checkToken (submission : Submission) :
    Keeps pacing (checkToken submission) := by
  refine Keeps.bind (Keeps.ask _) fun intake => ?_
  split
  · exact Keeps.bind Keeps.now fun now => Keeps.act fun service => rfl
  · exact Keeps.pure _

/-- What is done with a submission whose address was let pass. -/
def consider (submission : Submission) : Op (Except Refused Accepted) := do
  match ← checkToken submission with
  | .error refusal => return .error (.token refusal)
  | .ok () =>
      let service ← Operation.ask id
      let intake := service.intake
      match service.find? (intake.channelName submission.channel) with
      | none => return .ok .dropped
      | some channel =>
          let text := Intake.cleanMessage submission.text intake.limits.maxMessageBytes
            intake.limits.maxMessageLines
          if Text.allBlank text then
            return .ok .ignored
          else
            post channel (Message.written (intake.identity submission.identity) text)

theorem keeps_pacing_consider (submission : Submission) : Keeps pacing (consider submission) := by
  refine Keeps.bind (keeps_pacing_checkToken submission) fun verdict => ?_
  cases verdict with
  | error refusal => exact Keeps.pure _
  | ok granted =>
      refine Keeps.bind (Keeps.ask _) fun service => ?_
      dsimp only
      cases service.find? (service.intake.channelName submission.channel) with
      | none => exact Keeps.pure _
      | some channel =>
          dsimp only
          -- What matters of the text is whether it is blank, not how it was cleaned.
          generalize Intake.cleanMessage submission.text _ _ = text
          split
          · exact Keeps.pure _
          · exact roomless_pacing.post _ _

/-- The value of an operation is as told, whatever the states are that it meets. -/
theorem upholds_true_of_keeps {α τ : Type} {view : Service → τ} {operation : Op α}
    (keeps : Keeps view operation) :
    Upholds (fun _ => True) (fun _ => True) operation :=
  .of_keeps keeps fun _ _ _ _ => trivial

/-- What is posted is never answered by a wait. -/
theorem upholds_post_ne_coolingDown (index : Nat) (message : Message) :
    Upholds (fun _ => True) (fun reply => reply ≠ .error .coolingDown) (post index message) := by
  have redrawn {reply : Except Refused Accepted} (other : reply ≠ .error .coolingDown) :
      Upholds (fun _ => True) (fun reply => reply ≠ .error .coolingDown)
        (do discard (refresh index); return reply : Op _) :=
    (upholds_true_of_keeps (keeps_discard (roomless_pacing.refresh index))).bind
      fun _ _ => .pure other
  refine (upholds_true_of_keeps (roomless_pacing.append _ _)).bind fun answer _ => ?_
  cases answer with
  | ok numbered => exact redrawn (by simp)
  | error fault =>
      cases fault with
      | closed => exact .pure (by simp)
      | archive fault => exact redrawn (by simp)

/-- Nobody who was let pass is told to wait. -/
theorem consider_ne_coolingDown {submission : Submission} {before after : Service} :
    ¬Ends (consider submission) before (.ok (.error .coolingDown)) after := by
  have never : Upholds (fun _ => True) (fun reply => reply ≠ .error .coolingDown)
      (consider submission) := by
    refine (upholds_true_of_keeps (keeps_pacing_checkToken submission)).bind fun verdict _ => ?_
    cases verdict with
    | error refusal => exact .pure (by simp)
    | ok granted =>
        refine (Upholds.ask fun _ _ => trivial).bind (fun service (_ : True) => ?_)
        dsimp only
        cases service.find? (service.intake.channelName submission.channel) with
        | none => exact .pure (by simp)
        | some channel =>
            dsimp only
            generalize Intake.cleanMessage submission.text _ _ = text
            split
            · exact .pure (by simp)
            · exact upholds_post_ne_coolingDown _ _
  exact fun ends => (ends.upheld never trivial).2 rfl

/-- A submission is admitted, or its address has to wait and nothing happens. -/
theorem ends_submit_of_pass {submission : Submission} {before after : Service}
    {result : Except Fault (Except Refused Accepted)}
    (ends : Ends (submit submission) before result after) :
    ((before.intake.pass submission.address before.uptime).1 = true ∧
      Ends (consider submission)
        { before with intake := (before.intake.pass submission.address before.uptime).2 }
        result after) ∨
    ((before.intake.pass submission.address before.uptime).1 = false ∧
      result = .ok (.error .coolingDown) ∧
      after = { before with
        intake := (before.intake.pass submission.address before.uptime).2 }) := by
  replace ends := ends_act_bind.mp ends
  dsimp only at ends
  cases passes : (before.intake.pass submission.address before.uptime).1 with
  | true =>
      rw [passes] at ends
      exact .inl ⟨rfl, ends⟩
  | false =>
      rw [passes] at ends
      cases ends with
      | done => exact .inr ⟨rfl, rfl, rfl⟩

/-! ## Submissions one after the other -/

/-- Whether the address of a submission was let pass, by what became of the submission. -/
def letPass : Except Fault (Except Refused Accepted) → Bool
  | .ok (.error .coolingDown) => false
  | _ => true

/--
Submissions from any addresses, one after the other, of which some may be abandoned.  In
between anything may happen to the service, but its limits and the addresses that have to
wait stay, and time does not go back.
-/
inductive Submissions (limits : Intake.Limits) : List Intake.Attempt → Service → Prop where
  | start {service : Service} :
      service.intake.limits = limits → service.intake.cooldowns = [] →
        Submissions limits [] service
  | meanwhile {history : List Intake.Attempt} {before after : Service} :
      Submissions limits history before → after.intake.limits = before.intake.limits →
        after.intake.cooldowns = before.intake.cooldowns → before.uptime ≤ after.uptime →
        Submissions limits history after
  | submit {history : List Intake.Attempt} {before after : Service} {submission : Submission}
      {result : Except Fault (Except Refused Accepted)} :
      Submissions limits history before → Ends (submit submission) before result after →
        Submissions limits
          (history ++ [⟨submission.address, before.uptime, letPass result⟩]) after

/-- What becomes of a submission is what the list of addresses says, which is all that changes. -/
theorem pacing_submit {submission : Submission} {before after : Service}
    {result : Except Fault (Except Refused Accepted)}
    (ends : Ends (submit submission) before result after) :
    letPass result = (before.intake.pass submission.address before.uptime).1 ∧
      pacing after = (before.intake.limits,
        (before.intake.pass submission.address before.uptime).2.cooldowns, before.uptime) := by
  have sameLimits := congrArg Prod.snd ((keeps_passAddress submission.address).1 before)
  rcases ends_submit_of_pass ends with ⟨passes, ends⟩ | ⟨waits, rfl, rfl⟩
  · have admitted : letPass result = true := by
      rw [letPass.eq_def]
      split
      case h_1 => exact absurd ends consider_ne_coolingDown
      case h_2 => rfl
    rw [passes, ends.keeps (keeps_pacing_consider submission)]
    exact ⟨admitted, congrArg (Prod.mk · _) sameLimits⟩
  · exact ⟨waits.symm, congrArg (Prod.mk · _) sameLimits⟩

/-- Who has to wait leaves no trace. -/
theorem eq_of_coolingDown {submission : Submission} {before after : Service}
    (ends : Ends (submit submission) before (.ok (.error .coolingDown)) after) :
    after = before := by
  rcases ends_submit_of_pass ends with ⟨passes, ends⟩ | ⟨waits, -, rfl⟩
  · exact absurd ends consider_ne_coolingDown
  · rw [Intake.pass_of_false waits]

/-- A service lets pass and makes wait as the history of submissions to it says. -/
structure Paced (limits : Intake.Limits) (history : List Intake.Attempt) (service : Service) :
    Prop where
  sameLimits : service.intake.limits = limits
  recalls : Intake.Recalls limits.cooldownCapacity history service.intake.cooldowns
  inTime : Intake.InTime history
  begun : ∀ attempt ∈ history, attempt.instant ≤ service.uptime

namespace Submissions

variable {limits : Intake.Limits} {history : List Intake.Attempt} {service : Service}

theorem paced (submissions : Submissions limits history service)
    (configured : 0 < limits.cooldown) : Paced limits history service := by
  induction submissions with
  | start sameLimits nobody =>
      exact ⟨sameLimits, nobody ▸ .nil limits.cooldownCapacity, .nil, nofun⟩
  | meanwhile _ sameLimits sameCooldowns later ih =>
      refine ⟨sameLimits.trans ih.sameLimits, ?_, ih.inTime,
        fun attempt member => (ih.begun attempt member).trans later⟩
      rw [sameCooldowns]
      exact ih.recalls
  | @submit history before after submission result _ ends ih =>
      rcases ih with ⟨rfl, recalls, inTime, begun⟩
      rcases pacing_submit ends with ⟨passes, paced⟩
      obtain ⟨sameLimits, sameCooldowns, sameTime⟩ :
          after.intake.limits = before.intake.limits ∧
            after.intake.cooldowns =
              (before.intake.pass submission.address before.uptime).2.cooldowns ∧
            after.uptime = before.uptime := by
        simpa only [pacing, Prod.mk.injEq] using paced
      refine ⟨sameLimits, ?_, ?_, ?_⟩
      · rw [sameCooldowns, passes]
        exact (recalls.pass configured inTime submission.address before.uptime).2
      · refine List.pairwise_append.mpr ⟨inTime, List.pairwise_singleton _ _, ?_⟩
        intro attempt member last among
        obtain rfl := List.mem_singleton.mp among
        exact begun attempt member
      · intro attempt member
        rw [sameTime]
        rcases List.mem_append.mp member with old | new
        · exact begun attempt old
        · obtain rfl := List.mem_singleton.mp new
          exact Nat.le_refl _

/-- What is said of every submission at its end is said of each of a run. -/
theorem passed_iff (submissions : Submissions limits history service)
    (configured : 0 < limits.cooldown) :
    ∀ earlier attempt later, history = earlier ++ attempt :: later →
      (attempt.passed = true ↔
        ∀ before first since, earlier = before ++ first :: since → first.passed = true →
          first.address = attempt.address →
          attempt.instant < first.instant + limits.cooldown →
          limits.cooldownCapacity ≤ (Intake.othersPassed attempt.address since).card) := by
  induction submissions with
  | start => exact fun earlier attempt later split => absurd split (by simp)
  | meanwhile _ _ _ _ ih => exact ih
  | @submit history before after submission result earlierOnes ends ih =>
      intro earlier attempt later split
      rcases List.eq_nil_or_concat later with rfl | ⟨rest, last, rfl⟩
      · obtain ⟨rfl, same⟩ := List.append_inj' split rfl
        obtain rfl := (List.cons.inj same).1
        rcases earlierOnes.paced configured with ⟨rfl, recalls, inTime, -⟩
        rw [(pacing_submit ends).1]
        exact (recalls.pass configured inTime submission.address before.uptime).1
      · rw [List.concat_eq_append, ← List.cons_append, ← List.append_assoc] at split
        exact ih earlier attempt rest (List.append_inj' split rfl).1

/-- Without the submissions that had to wait, a service would have come to the same. -/
theorem without_refused (submissions : Submissions limits history service) :
    Submissions limits (history.filter Intake.Attempt.passed) service := by
  induction submissions with
  | start sameLimits nobody => exact .start sameLimits nobody
  | meanwhile _ sameLimits sameCooldowns later ih =>
      exact ih.meanwhile sameLimits sameCooldowns later
  | @submit history before after submission result _ ends ih =>
      rw [List.filter_append]
      cases passed : letPass result with
      | true =>
          have submitted := ih.submit ends
          rw [passed] at submitted
          exact submitted
      | false =>
          obtain rfl : result = .ok (.error .coolingDown) := by
            rw [letPass.eq_def] at passed
            split at passed
            case h_1 => rfl
            case h_2 => cases passed
          rw [eq_of_coolingDown ends]
          simpa using ih

/--
An address is let pass exactly if each passage of it that is less than a cooldown ago was
followed by those of at least as many other addresses as are remembered.  A submission whose
address has to wait changes nothing at all, so that it delays no other: what a service came
to by submissions, it could have come to without those that had to wait.
-/
theorem cooldown_law (submissions : Submissions limits history service)
    (configured : 0 < limits.cooldown) :
    (∀ earlier attempt later, history = earlier ++ attempt :: later →
      (attempt.passed = true ↔
        ∀ before first since, earlier = before ++ first :: since → first.passed = true →
          first.address = attempt.address →
          attempt.instant < first.instant + limits.cooldown →
          limits.cooldownCapacity ≤ (Intake.othersPassed attempt.address since).card)) ∧
    (∀ submission after,
      Ends (Service.submit submission) service (.ok (.error .coolingDown)) after →
        after = service) ∧
    Submissions limits (history.filter Intake.Attempt.passed) service :=
  ⟨submissions.passed_iff configured, fun _ _ => eq_of_coolingDown, submissions.without_refused⟩

end Submissions

/-- A service that wants no tokens and remembers one address. -/
def forgetful : Service :=
  { bare with
    intake :=
      { bare.intake with
        limits := { Intake.Limits.standard with requireToken := false, cooldownCapacity := 1 } } }

/-- A submission from an address that ends as told. -/
def fromAddress (last : UInt8) : Submission :=
  ⟨"lobby", "ann", "hello", none, .v4 10 0 0 last⟩

namespace Submissions

/-- One address passes and has to wait, until another one passes. -/
def twoAddresses : List Intake.Attempt :=
  [⟨.v4 10 0 0 1, 0, true⟩, ⟨.v4 10 0 0 1, 0, false⟩, ⟨.v4 10 0 0 2, 0, true⟩,
    ⟨.v4 10 0 0 1, 0, true⟩]

theorem submissions_twoAddresses :
    ∃ service, Submissions forgetful.intake.limits twoAddresses service := by
  let first := (Service.run (Service.submit (fromAddress 1)) forgetful).2
  let second := (Service.run (Service.submit (fromAddress 1)) first).2
  let third := (Service.run (Service.submit (fromAddress 2)) second).2
  have passed : (Service.run (Service.submit (fromAddress 1)) forgetful).1 =
      .ok (.ok .dropped) := rfl
  have waited : (Service.run (Service.submit (fromAddress 1)) first).1 =
      .ok (.error .coolingDown) := rfl
  have other : (Service.run (Service.submit (fromAddress 2)) second).1 = .ok (.ok .dropped) := by
    decide +kernel
  have again : (Service.run (Service.submit (fromAddress 1)) third).1 = .ok (.ok .dropped) := by
    decide +kernel
  have begun : Submissions forgetful.intake.limits [] forgetful := .start rfl rfl
  exact ⟨_, (((begun.submit (.of_run passed)).submit (.of_run waited)).submit
    (.of_run other)).submit (.of_run again)⟩

/-- The address passes again though less than a cooldown has gone by, after the other one. -/
theorem cooldown_law_of_twoAddresses :
    ∃ service, Submissions forgetful.intake.limits twoAddresses service ∧
      1 ≤ (Intake.othersPassed (.v4 10 0 0 1)
        [⟨.v4 10 0 0 1, 0, false⟩, ⟨.v4 10 0 0 2, 0, true⟩]).card ∧
      Submissions forgetful.intake.limits
        [⟨.v4 10 0 0 1, 0, true⟩, ⟨.v4 10 0 0 2, 0, true⟩, ⟨.v4 10 0 0 1, 0, true⟩] service := by
  rcases submissions_twoAddresses with ⟨service, submissions⟩
  rcases submissions.cooldown_law (by decide) with ⟨passed, -, unrefused⟩
  have again := passed [⟨.v4 10 0 0 1, 0, true⟩, ⟨.v4 10 0 0 1, 0, false⟩,
    ⟨.v4 10 0 0 2, 0, true⟩] ⟨.v4 10 0 0 1, 0, true⟩ [] rfl
  exact ⟨service, submissions, again.mp rfl [] _ _ rfl rfl rfl (by decide), unrefused⟩

end Submissions

end FrameChat.Service
