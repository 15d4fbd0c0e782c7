import FrameChat.Proofs.Channel.Course
import FrameChat.Proofs.Service.Chronicle

/-!
# Refreshing as two actions

A refresh of a service works on its channel twice, and on nothing else of it.
Run alone it is a course of two actions, a snapshot and a publication of what
was drawn from it (`ends_refresh`).  What courses say of these two actions with
any others between them is therefore said of refreshes.
-/

namespace FrameChat

/-- The snapshot that was taken last is published with its own version. -/
theorem Channel.Course.channel_snapshot_publish (course : Course) (instant : Nat)
    (drawn : PerViewport (Option Rendering)) (renderMs : Nat) :
    (course.run [.snapshot instant, .publish course.drawing.length drawn renderMs]).channel =
      ((course.channel.snapshot instant).2.publish (course.channel.snapshot instant).1.version
        drawn renderMs).2 := by
  have taken : (course.step (.snapshot instant)).drawing[course.drawing.length]? =
      some (course.channel.snapshot instant).1.version := List.getElem?_concat_length
  exact channel_step_publish taken drawn renderMs

namespace Service

open Operation

theorem ends_publish {index : Nat} {snapshot : Channel.Snapshot} {before after : Service}
    {published : Bool} (loaded : index < before.channels.size)
    (ends : Ends
      (do
        let now ← Operation.now
        let started ← Operation.ask Service.instant
        let narrow ← render (snapshot.scene .narrow now) .narrow
        let wide ← render (snapshot.scene .wide now) .wide
        let ended ← Operation.ask Service.instant
        onChannel index (·.publish snapshot.version ⟨narrow, wide⟩ (max (ended - started) 1)))
      before (.ok published) after) :
    ∃ drawn renderMs, (before.channel index).publish snapshot.version drawn renderMs =
      (published, after.channel index) := by
  have faceless : Faceless Service.channels := fun _ _ => rfl
  rcases ends_now_bind.mp ends with ⟨now, ends⟩
  replace ends := ends_ask_bind.mp ends
  rcases ends.after (keeps_render faceless _ _) with ⟨narrow, first, firstSame, ends⟩
  rcases ends.after (keeps_render faceless _ _) with ⟨wide, second, secondSame, ends⟩
  replace ends := ends_ask_bind.mp ends
  have same : second.channels = before.channels := secondSame.trans firstSame
  have sameChannel : second.channel index = before.channel index := by
    rw [Service.channel, same, Service.channel]
  rcases ends_act.mp ends with ⟨answer, rfl⟩
  refine ⟨⟨narrow, wide⟩, max (second.instant - before.instant) 1, Prod.ext ?_ ?_⟩
  · rw [← sameChannel]
    exact answer.symm
  · rw [channel_withChannel _ (same ▸ loaded), sameChannel]

/-- A refresh takes a snapshot of its channel and publishes what it drew from it. -/
theorem ends_refresh {index : Nat} {before after : Service} {published : Bool}
    (loaded : index < before.channels.size)
    (ends : Ends (refresh index) before (.ok published) after) {course : Channel.Course}
    (same : course.channel = before.channel index) :
    ∃ drawn renderMs,
      (course.run [.snapshot before.instant, .publish course.drawing.length drawn renderMs]).channel =
        after.channel index := by
  replace ends := ends_act_bind.mp ends
  have taken : (withChannel index (·.snapshot before.instant) before).2.channel index =
      ((before.channel index).snapshot before.instant).2 := channel_withChannel _ loaded
  have stillLoaded : index <
      (withChannel index (·.snapshot before.instant) before).2.channels.size := by
    simpa [withChannel] using loaded
  rcases ends_publish stillLoaded ends with ⟨drawn, renderMs, stored⟩
  refine ⟨drawn, renderMs, ?_⟩
  rw [Channel.Course.channel_snapshot_publish, same, ← taken]
  exact congrArg Prod.snd stored

end Service

end FrameChat
