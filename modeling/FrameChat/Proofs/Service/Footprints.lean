import FrameChat.Proofs.Channel.Reception
import FrameChat.Proofs.Service.Chronicle

/-!
# Footprints of operations

An operation of a service leaves most of the service as it was.  A refresh and an
append keep what viewers depend on, and an append works on no channel once its
message is recorded.  Both are abandoned only if the clock cannot be read, and so
is a join.
-/

namespace FrameChat.Service

open Operation

variable {index : Nat}

@[simp]
theorem size_withChannel {α : Type} (index : Nat) (act : Channel → α × Channel)
    (service : Service) :
    (withChannel index act service).2.channels.size = service.channels.size := by
  simp [withChannel]

/-- A step that keeps a part of its channel, in a service that may not even have the channel. -/
theorem withChannel_keeps
    {α τ : Type}
    {part : Channel → τ}
    {act : Channel → α × Channel}
    (same : ∀ channel, part (act channel).2 = part channel)
    (service : Service) :
    part ((withChannel index act service).2.channel index) = part (service.channel index) := by
  by_cases loaded : index < service.channels.size
  · rw [channel_withChannel act loaded]
    exact same _
  · have missing : (withChannel index act service).2.channel index = service.channel index := by
      simp [withChannel, Service.channel, loaded]
    rw [missing]

theorem keeps_part_onChannel
    {α τ : Type}
    {part : Channel → τ}
    {act : Channel → α × Channel}
    (same : ∀ channel, part (act channel).2 = part channel) :
    Keeps (fun service => part (service.channel index)) (onChannel index act) :=
  Keeps.act fun service => withChannel_keeps same service

theorem keeps_discard {τ α : Type} {view : Service → τ} {operation : Op α}
    (keeps : Keeps view operation) : Keeps view (discard operation) :=
  Keeps.bind keeps fun _ => Keeps.pure _

/-- The archive is asked after a message was recorded, and nothing else is worked on. -/
theorem keeps_persist
    {τ : Type}
    (view : Service → τ)
    (blind : ∀ service archive, view { service with archive } = view service)
    (index : Nat)
    (now : Seconds)
    (recorded : Option Message) :
    Keeps view
      (match recorded with
      | none => return .error .closed
      | some message =>
          if message.kind = .text then do
            let settings ← Operation.ask fun service => service.channel index
            match ← onArchive (·.append settings.name message now
              settings.settings.historyLimit) with
            | .ok () => return .ok message
            | .error fault => return .error (.archive fault)
          else
            return .ok message : Op (Except AppendFault Message)) := by
  cases recorded with
  | none => exact Keeps.pure _
  | some message =>
      dsimp only
      split
      · refine Keeps.bind (Keeps.ask _) fun settings => ?_
        refine Keeps.bind (Keeps.act fun service => blind service _) fun answer => ?_
        cases answer <;> exact Keeps.pure _
      · exact Keeps.pure _

theorem keeps_size_refresh : Keeps (fun service => service.channels.size) (refresh index) := by
  apply keeps_refresh_of fun _ _ => rfl
  · intro service instant
    exact size_withChannel _ _ service
  · intro service version drawn renderMs
    exact size_withChannel _ _ service

theorem keeps_reception_refresh :
    Keeps (fun service => (service.channel index).reception) (refresh index) := by
  apply keeps_refresh_of fun _ _ => rfl
  · intro service instant
    exact withChannel_keeps (fun channel => rfl) service
  · intro service version drawn renderMs
    exact withChannel_keeps (fun channel => Channel.reception_publish channel version drawn
      renderMs) service

theorem keeps_reception_append (message : Message) :
    Keeps (fun service => (service.channel index).reception) (append index message) := by
  refine Keeps.bind Keeps.now fun now => ?_
  refine Keeps.bind (keeps_part_onChannel fun channel =>
    Channel.reception_record channel now message) fun recorded => ?_
  exact (keeps_persist Service.channels (fun _ _ => rfl) index now recorded).part fun channels =>
    (channels.getD index Channel.shut).reception

/-! ## Operations that are not abandoned -/

theorem steady_onChannel {α : Type} (index : Nat) (act : Channel → α × Channel) :
    Steady (onChannel index act) := Steady.act _

theorem steady_draw (picture : Picture) : Steady (draw picture) := by
  refine Steady.bind (Steady.act _) fun face => Steady.bind (Steady.draw _) fun _ => ?_
  refine Steady.bind (Steady.ask _) fun inkFails => Steady.bind (Steady.modify _) fun _ => ?_
  split <;> exact Steady.pure _

theorem steady_render (scene : Scene) (viewport : Viewport) : Steady (render scene viewport) := by
  refine Steady.bind (Steady.ask _) fun studio => Steady.bind (steady_draw _) fun drawn => ?_
  rcases drawn with ⟨picture, complete⟩
  cases complete <;> exact Steady.pure _

theorem steady_renderNotice (viewport : Viewport) (text : String) :
    Steady (renderNotice viewport text) :=
  Steady.bind (Steady.ask _) fun _ => Steady.bind (steady_draw _) fun _ => Steady.pure _

theorem steady_refresh (index : Nat) : Steady (refresh index) := by
  refine Steady.bind (Steady.act _) fun snapshot => Steady.bind Steady.now fun now => ?_
  refine Steady.bind (Steady.ask _) fun started => Steady.bind (steady_render _ _) fun narrow => ?_
  refine Steady.bind (steady_render _ _) fun wide => Steady.bind (Steady.ask _) fun ended => ?_
  exact steady_onChannel _ _

theorem steady_append (index : Nat) (message : Message) : Steady (append index message) := by
  refine Steady.bind Steady.now fun now => Steady.bind (steady_onChannel _ _) fun recorded => ?_
  cases recorded with
  | none => exact Steady.pure _
  | some numbered =>
      dsimp only
      split
      · refine Steady.bind (Steady.ask _) fun settings => ?_
        refine Steady.bind (Steady.act _) fun answer => ?_
        cases answer <;> exact Steady.pure _
      · exact Steady.pure _

theorem steady_discard {α : Type} {operation : Op α} (steady : Steady operation) :
    Steady (discard operation) :=
  Steady.bind steady fun _ => Steady.pure _

theorem steady_join
    (index : Nat)
    (identity : String)
    (viewport : Viewport)
    (address : Net.Address) :
    Steady (join index identity viewport address) := by
  refine Steady.bind (steady_onChannel _ _) fun entry => ?_
  cases entry with
  | closed => exact Steady.pure _
  | rejected => exact Steady.bind (steady_renderNotice _ _) fun _ => Steady.pure _
  | entered session displaced =>
      have redrawn : Steady (do discard (refresh index); return Joined.joined session) :=
        Steady.bind (steady_discard (steady_refresh index)) fun _ => Steady.pure _
      cases displaced with
      | true => exact redrawn
      | false => exact Steady.bind (steady_discard (steady_append _ _)) fun _ => redrawn

end FrameChat.Service
