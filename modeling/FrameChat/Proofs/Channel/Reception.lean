import FrameChat.Proofs.Channel.Course
import FrameChat.Proofs.Channel.Ledger
import FrameChat.Proofs.Roster

/-!
# Coming and going

Who comes to watch and who stops watching is written in few parts of a channel:
the roster, and the number of the last session.  Together with the notices for
displaced viewers they are its reception.  Messages, pictures and deliveries
leave it alone.

A reception is in order if its roster is exact, all sessions on it were given
out, and no identity is on it twice (`Reception.InOrder`).  Every action
preserves this (`inOrder_run`).  As long as it holds, somebody who comes to watch
meets at most one viewer of the same identity, so that there are four ways in
which it goes (`Admission`).
-/

namespace FrameChat.Channel

structure Reception where
  roster : Roster
  lastSession : Nat
  notices : PerViewport Frame

def reception (channel : Channel) : Reception :=
  ⟨channel.roster, channel.lastSession, channel.notices⟩

/-! ## What keeps the reception -/

theorem reception_record (channel : Channel) (now : Seconds) (message : Message) :
    (channel.record now message).2.reception = channel.reception := by
  rw [record]
  split <;> rfl

theorem reception_store (channel : Channel) (viewport : Viewport) (rendering : Option Rendering) :
    (channel.store viewport rendering).reception = channel.reception := by
  cases rendering with
  | none => rfl
  | some rendering =>
      rcases offerTo_eq rendering.frame (channel.sessionsIn viewport) channel with
        ⟨mailboxes, same⟩
      rw [store]
      dsimp only
      rw [same]
      rfl

theorem reception_publish
    (channel : Channel)
    (version : Nat)
    (drawn : PerViewport (Option Rendering))
    (renderMs : Nat) :
    (channel.publish version drawn renderMs).2.reception = channel.reception := by
  rw [publish]
  split
  · rfl
  · split
    · rfl
    · calc
        _ = ((channel.store .narrow drawn.narrow).store .wide drawn.wide).reception := rfl
        _ = (channel.store .narrow drawn.narrow).reception := reception_store _ _ _
        _ = channel.reception := reception_store _ _ _

theorem reception_closeIfIdle (channel : Channel) :
    channel.closeIfIdle.2.reception = channel.reception := by
  rw [closeIfIdle]
  split <;> rfl

theorem reception_close (channel : Channel) : channel.close.reception = channel.reception := by
  rcases foldl_closeMailbox_eq (channel.roster.viewers.map Viewer.session) channel with
    ⟨mailboxes, same⟩
  rw [close, same]
  rfl

/-! ## What changes the reception -/

namespace Reception

/-- Give out a session and list its viewer. -/
def welcome
    (reception : Reception)
    (identity : String)
    (viewport : Viewport)
    (address : Net.Address) :
    Reception :=
  { reception with
    lastSession := reception.lastSession + 1
    roster :=
      (reception.roster.register
        ⟨reception.lastSession + 1, identity, viewport, address⟩).2 }

def dismiss (reception : Reception) (session : Nat) : Reception :=
  { reception with roster := (reception.roster.unregister session).2 }

structure InOrder (reception : Reception) : Prop where
  exact : reception.roster.Exact
  given : ∀ session viewer,
    reception.roster.viewer? session = some viewer → session ≤ reception.lastSession
  single : ∀ first second viewer other,
    reception.roster.viewer? first = some viewer →
      reception.roster.viewer? second = some other →
        viewer.identity = other.identity → first = second

variable {reception : Reception} {identity : String} {viewport : Viewport}
  {address : Net.Address}

theorem InOrder.unused (inOrder : reception.InOrder) :
    reception.roster.viewer? (reception.lastSession + 1) = none := by
  cases found : reception.roster.viewer? (reception.lastSession + 1) with
  | none => rfl
  | some viewer =>
      have given := inOrder.given _ viewer found
      omega

theorem InOrder.viewer?_welcome
    (inOrder : reception.InOrder)
    (identity : String)
    (viewport : Viewport)
    (address : Net.Address)
    (session : Nat) :
    (reception.welcome identity viewport address).roster.viewer? session =
      if session = reception.lastSession + 1 then
        some ⟨reception.lastSession + 1, identity, viewport, address⟩
      else reception.roster.viewer? session :=
  Roster.viewer?_register inOrder.unused session

theorem InOrder.welcome
    (inOrder : reception.InOrder)
    (absent : ∀ session viewer,
      reception.roster.viewer? session = some viewer → viewer.identity ≠ identity) :
    (reception.welcome identity viewport address).InOrder := by
  constructor
  · exact inOrder.exact.register inOrder.unused
  · intro session viewer found
    rw [inOrder.viewer?_welcome] at found
    show session ≤ reception.lastSession + 1
    split at found
    case isTrue same => exact Nat.le_of_eq same
    case isFalse => exact Nat.le_succ_of_le (inOrder.given session viewer found)
  · intro first second viewer other foundFirst foundSecond same
    rw [inOrder.viewer?_welcome] at foundFirst foundSecond
    split at foundFirst
    case isTrue firstNew =>
      cases foundFirst
      split at foundSecond
      case isTrue secondNew => exact firstNew.trans secondNew.symm
      case isFalse => exact absurd same.symm (absent second other foundSecond)
    case isFalse =>
      split at foundSecond
      case isTrue =>
        cases foundSecond
        exact absurd same (absent first viewer foundFirst)
      case isFalse =>
        exact inOrder.single first second viewer other foundFirst foundSecond same

theorem InOrder.dismiss (inOrder : reception.InOrder) (session : Nat) :
    (reception.dismiss session).InOrder := by
  have before {other : Nat} {viewer : Viewer}
      (found : (reception.dismiss session).roster.viewer? other = some viewer) :
      reception.roster.viewer? other = some viewer := by
    replace found : (reception.roster.unregister session).2.viewer? other = some viewer := found
    rw [Roster.viewer?_unregister] at found
    split at found
    · cases found
    · exact found
  constructor
  · exact inOrder.exact.unregister session
  · intro other viewer found
    exact inOrder.given other viewer (before found)
  · intro first second viewer other foundFirst foundSecond
    exact inOrder.single first second viewer other (before foundFirst) (before foundSecond)

theorem inOrder_start (notices : PerViewport Frame) : InOrder ⟨Roster.empty, 0, notices⟩ where
  exact := Roster.exact_empty
  given := by
    intro session viewer found
    cases found
  single := by
    intro first second viewer other found
    cases found

/-! ## Viewers of one identity -/

theorem InOrder.ofIdentity_eq_nil_iff (inOrder : reception.InOrder) :
    reception.roster.ofIdentity identity = [] ↔
      ∀ session viewer,
        reception.roster.viewer? session = some viewer → viewer.identity ≠ identity := by
  constructor
  · intro none session viewer found same
    have own := inOrder.exact.own session viewer found
    have member : viewer ∈ reception.roster.ofIdentity identity :=
      inOrder.exact.mem_ofIdentity.mpr ⟨own ▸ found, same⟩
    rw [none] at member
    cases member
  · intro absent
    apply List.eq_nil_iff_forall_not_mem.mpr
    intro viewer member
    rcases inOrder.exact.mem_ofIdentity.mp member with ⟨found, same⟩
    exact absent viewer.session viewer found same

theorem InOrder.ofIdentity_eq_singleton
    (inOrder : reception.InOrder)
    {viewer : Viewer}
    (found : reception.roster.viewer? viewer.session = some viewer) :
    reception.roster.ofIdentity viewer.identity = [viewer] := by
  have member : viewer ∈ reception.roster.ofIdentity viewer.identity :=
    inOrder.exact.mem_ofIdentity.mpr ⟨found, rfl⟩
  apply List.perm_singleton.mp
  apply (List.perm_ext_iff_of_nodup (inOrder.exact.nodup_ofIdentity _)
    (List.nodup_singleton viewer)).mpr
  intro other
  constructor
  · intro listed
    rcases inOrder.exact.mem_ofIdentity.mp listed with ⟨foundOther, same⟩
    have sameSession := inOrder.single _ _ other viewer foundOther found same
    rw [sameSession, found] at foundOther
    cases foundOther
    exact List.mem_singleton_self _
  · intro same
    rw [List.mem_singleton.mp same]
    exact member

/-- There is nobody of an identity, or exactly one viewer. -/
theorem InOrder.ofIdentity_cases (inOrder : reception.InOrder) (identity : String) :
    reception.roster.ofIdentity identity = [] ∨
      ∃ viewer, reception.roster.ofIdentity identity = [viewer] ∧
        reception.roster.viewer? viewer.session = some viewer ∧ viewer.identity = identity := by
  cases present : reception.roster.ofIdentity identity with
  | nil => exact Or.inl rfl
  | cons viewer rest =>
      have member : viewer ∈ reception.roster.ofIdentity identity := by
        rw [present]
        exact List.mem_cons_self
      rcases inOrder.exact.mem_ofIdentity.mp member with ⟨found, rfl⟩
      rw [inOrder.ofIdentity_eq_singleton found] at present
      exact Or.inr ⟨viewer, present.symm, found, rfl⟩

theorem InOrder.ofIdentity_mem
    (inOrder : reception.InOrder)
    {viewer : Viewer}
    (alone : reception.roster.ofIdentity identity = [viewer]) :
    reception.roster.viewer? viewer.session = some viewer ∧ viewer.identity = identity := by
  apply inOrder.exact.mem_ofIdentity.mp
  rw [alone]
  exact List.mem_singleton_self viewer

/-- No identity is listed more than once. -/
theorem InOrder.length_ofIdentity (inOrder : reception.InOrder) (identity : String) :
    (reception.roster.ofIdentity identity).length ≤ 1 := by
  rcases inOrder.ofIdentity_cases identity with none | ⟨viewer, alone, -⟩
  · rw [none]
    exact Nat.zero_le 1
  · rw [alone]
    exact Nat.le_refl 1

theorem InOrder.length_filter_viewers (inOrder : reception.InOrder) (identity : String) :
    (reception.roster.viewers.filter fun viewer => viewer.identity = identity).length ≤ 1 := by
  have nodup := inOrder.exact.nodup_viewers.filter fun viewer => decide (viewer.identity = identity)
  have same : ∀ viewer ∈ reception.roster.viewers.filter (fun viewer => viewer.identity = identity),
      viewer ∈ reception.roster.ofIdentity identity := by
    intro viewer member
    rcases List.mem_filter.mp member with ⟨listed, own⟩
    exact inOrder.exact.mem_ofIdentity.mpr
      ⟨inOrder.exact.mem_viewers.mp listed, of_decide_eq_true own⟩
  exact Nat.le_trans (nodup.length_le_of_subset same) (inOrder.length_ofIdentity identity)

end Reception

@[simp]
theorem reception_remove (channel : Channel) (session : Nat) :
    (channel.remove session).2.reception = channel.reception.dismiss session := by
  rw [remove, Reception.dismiss]
  cases found : channel.roster.viewer? session with
  | none =>
      have same := Roster.unregister_of_none found
      rw [same]
      show channel.reception = ⟨(channel.roster.unregister session).2, _, _⟩
      rw [same]
      rfl
  | some viewer =>
      have first : channel.roster.unregister session =
          (some viewer, (channel.roster.unregister session).2) := by
        rw [← found, ← Roster.unregister_fst]
      rw [first]
      rfl

/-! ## Somebody comes to watch -/

inductive Admission
    (channel : Channel)
    (identity : String)
    (viewport : Viewport)
    (address : Net.Address) :
    Entry → Channel → Prop where
  | closed :
      channel.closed = true →
        Admission channel identity viewport address .closed channel
  | rejected {viewer : Viewer} :
      channel.closed = false →
        channel.roster.ofIdentity identity = [viewer] → viewer.address ≠ address →
        Admission channel identity viewport address .rejected channel
  | fresh :
      channel.closed = false →
        channel.roster.ofIdentity identity = [] →
        Admission channel identity viewport address
          (.entered (channel.lastSession + 1) false)
          (channel.openSession identity viewport address).2
  | displacing {viewer : Viewer} :
      channel.closed = false →
        channel.roster.ofIdentity identity = [viewer] → viewer.address = address →
        Admission channel identity viewport address
          (.entered (channel.lastSession + 1) true)
          ((channel.displace viewer).openSession identity viewport address).2

theorem admission_enter
    {channel : Channel}
    (inOrder : channel.reception.InOrder)
    (identity : String)
    (viewport : Viewport)
    (address : Net.Address) :
    Admission channel identity viewport address
      (channel.enter identity viewport address).1
      (channel.enter identity viewport address).2 := by
  cases closed : channel.closed with
  | true =>
      rw [enter, if_pos closed]
      exact .closed closed
  | false =>
      rw [enter, if_neg (by simp [closed])]
      rcases inOrder.ofIdentity_cases identity with none | ⟨viewer, alone, -⟩
      · replace none : channel.roster.ofIdentity identity = [] := none
        rw [none]
        exact .fresh closed none
      · replace alone : channel.roster.ofIdentity identity = [viewer] := alone
        rw [alone]
        dsimp only
        by_cases here : viewer.address = address
        · rw [if_neg (by simp [here])]
          exact .displacing closed alone here
        · rw [if_pos (by simp [here])]
          exact .rejected closed alone here

theorem enter_displacing
    {channel : Channel}
    {identity : String}
    {address : Net.Address}
    {viewer : Viewer}
    (isOpen : channel.closed = false)
    (alone : channel.roster.ofIdentity identity = [viewer])
    (here : viewer.address = address)
    (viewport : Viewport) :
    channel.enter identity viewport address =
      (.entered (channel.lastSession + 1) true,
        ((channel.displace viewer).openSession identity viewport address).2) := by
  rw [enter, if_neg (by simp [isOpen]), alone]
  dsimp only
  rw [if_neg (by simp [here])]
  rfl

theorem admission_of_enter
    {channel after : Channel}
    {identity : String}
    {viewport : Viewport}
    {address : Net.Address}
    {entry : Entry}
    (inOrder : channel.reception.InOrder)
    (outcome : channel.enter identity viewport address = (entry, after)) :
    Admission channel identity viewport address entry after := by
  have admission := admission_enter inOrder identity viewport address
  rw [outcome] at admission
  exact admission

theorem Admission.inOrder
    {channel after : Channel}
    {identity : String}
    {viewport : Viewport}
    {address : Net.Address}
    {entry : Entry}
    (admission : Admission channel identity viewport address entry after)
    (inOrder : channel.reception.InOrder) :
    after.reception.InOrder := by
  cases admission with
  | closed => exact inOrder
  | rejected => exact inOrder
  | fresh _ none => exact inOrder.welcome (inOrder.ofIdentity_eq_nil_iff.mp none)
  | @displacing viewer _ alone _ =>
      rcases inOrder.ofIdentity_mem alone with ⟨found, same⟩
      apply (inOrder.dismiss viewer.session).welcome
      intro session other foundOther identical
      replace foundOther : (channel.roster.unregister viewer.session).2.viewer? session =
        some other := foundOther
      rw [Roster.viewer?_unregister] at foundOther
      split at foundOther
      case isTrue => cases foundOther
      case isFalse differ =>
        exact differ
          (inOrder.single _ _ other viewer foundOther found (identical.trans same.symm))

/-- A new session is not in use, so that its viewer is listed. -/
theorem register_of_entered
    {channel after : Channel}
    {identity : String}
    {viewport : Viewport}
    {address : Net.Address}
    {session : Nat}
    {displaced : Bool}
    (inOrder : channel.reception.InOrder)
    (entered : channel.enter identity viewport address = (.entered session displaced, after)) :
    (((channel.roster.ofIdentity identity).foldl displace channel).roster.register
      ⟨session, identity, viewport, address⟩).1 = true := by
  cases admission_of_enter inOrder entered with
  | fresh _ none =>
      rw [none]
      show (channel.roster.register ⟨channel.lastSession + 1, identity, viewport, address⟩).1 = _
      exact Roster.register_fst inOrder.unused
  | @displacing viewer _ alone _ =>
      rw [alone]
      have unused := (inOrder.dismiss viewer.session).unused
      exact Roster.register_fst unused

/-! ## Whole courses -/

namespace Course

theorem inOrder_step
    {course : Course}
    (inOrder : course.channel.reception.InOrder)
    (action : Action) :
    (course.step action).channel.reception.InOrder := by
  cases action with
  | record now message =>
      exact (reception_record course.channel now message).symm ▸ inOrder
  | enter identity viewport address =>
      rw [step]
      split
      case h_1 session displaced after outcome =>
        exact (admission_of_enter inOrder outcome).inOrder inOrder
      case h_2 entry after outside outcome =>
        exact (admission_of_enter inOrder outcome).inOrder inOrder
  | remove session =>
      show (course.channel.remove session).2.reception.InOrder
      rw [reception_remove]
      exact inOrder.dismiss session
  | closeMailbox session => exact inOrder
  | receive session => exact inOrder
  | closeIfIdle => exact (reception_closeIfIdle course.channel).symm ▸ inOrder
  | close => exact (reception_close course.channel).symm ▸ inOrder
  | snapshot instant => exact inOrder
  | publish pick drawn renderMs =>
      cases picked : course.drawing[pick]? with
      | none =>
          rw [step, picked]
          exact inOrder
      | some version =>
          rw [channel_step_publish picked]
          exact (reception_publish course.channel version drawn renderMs).symm ▸ inOrder

theorem inOrder_run
    {course : Course}
    (inOrder : course.channel.reception.InOrder)
    (actions : List Action) :
    (course.run actions).channel.reception.InOrder := by
  induction actions generalizing course with
  | nil => exact inOrder
  | cons action rest ih => exact ih (inOrder_step inOrder action)

end Course

end FrameChat.Channel
