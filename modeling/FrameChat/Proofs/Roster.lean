import FrameChat.Proofs.Lookup
import FrameChat.Roster
import Mathlib.Data.List.Nodup

/-!
# Rosters in order

A roster finds viewers by session and by identity, in two lists that are kept
side by side.  `Roster.Exact` says that the two lists agree: a session stands
under an identity exactly if its viewer has that identity, and no viewer stands
anywhere twice.  Registering and unregistering preserve it, whatever the session.
-/

namespace FrameChat.Roster

variable {roster : Roster} {session : Nat} {viewer : Viewer} {identity : String}

/-! ## Looking up -/

theorem viewer?_register
    (unused : roster.viewer? viewer.session = none)
    (other : Nat) :
    (roster.register viewer).2.viewer? other =
      if other = viewer.session then some viewer else roster.viewer? other := by
  rw [register, if_neg (by simp [unused])]
  show List.lookup other ((viewer.session, viewer) :: roster.sessions) = _
  rw [List.lookup_cons]
  by_cases same : other = viewer.session
  · simp [same]
  · have passed : (other == viewer.session) = false := by simpa using same
    rw [passed, if_neg same]
    rfl

theorem viewer?_unregister (roster : Roster) (session other : Nat) :
    (roster.unregister session).2.viewer? other =
      if other = session then none else roster.viewer? other := by
  rw [unregister]
  cases found : roster.viewer? session with
  | none =>
      by_cases same : other = session
      · rw [if_pos same, same]
        exact found
      · rw [if_neg same]
  | some viewer =>
      show List.lookup other (roster.sessions.filter fun entry => entry.1 ≠ session) = _
      by_cases same : other = session
      · rw [if_pos same, same]
        exact lookup_filter_self session roster.sessions
      · rw [if_neg same]
        exact lookup_filter_ne same roster.sessions

/-- Other identities keep their sessions when those of one are set. -/
theorem lookup_relist (roster : Roster) (identity other : String) (sessions : List Nat) :
    ((roster.relist identity sessions).lookup other).getD [] =
      if other = identity then sessions else roster.listed other := by
  rw [relist]
  cases sessions with
  | nil =>
      show ((roster.identities.filter fun entry => entry.1 ≠ identity).lookup other).getD [] = _
      by_cases same : other = identity
      · rw [if_pos same, same, lookup_filter_self]
        rfl
      · rw [if_neg same, lookup_filter_ne same]
        rfl
  | cons session rest =>
      show (((identity, session :: rest) ::
        roster.identities.filter fun entry => entry.1 ≠ identity).lookup other).getD [] = _
      rw [lookup_replace]
      split <;> rfl

theorem listed_register
    (unused : roster.viewer? viewer.session = none)
    (identity : String) :
    (roster.register viewer).2.listed identity =
      if identity = viewer.identity then viewer.session :: roster.listed viewer.identity
      else roster.listed identity := by
  rw [register, if_neg (by simp [unused])]
  exact lookup_relist roster viewer.identity identity (viewer.session :: roster.listed viewer.identity)

theorem listed_unregister
    (found : roster.viewer? session = some viewer)
    (identity : String) :
    (roster.unregister session).2.listed identity =
      if identity = viewer.identity then
        (roster.listed viewer.identity).filter fun listed => listed ≠ session
      else roster.listed identity := by
  rw [unregister, found]
  exact lookup_relist roster viewer.identity identity _

theorem unregister_of_none (absent : roster.viewer? session = none) :
    roster.unregister session = (none, roster) := by
  rw [unregister, absent]

theorem unregister_fst (roster : Roster) (session : Nat) :
    (roster.unregister session).1 = roster.viewer? session := by
  rw [unregister]
  cases roster.viewer? session <;> rfl

/-! ## Both lists agree -/

structure Exact (roster : Roster) : Prop where
  sessions : (roster.sessions.map Prod.fst).Nodup
  own : ∀ session viewer, roster.viewer? session = some viewer → viewer.session = session
  distinct : ∀ identity, (roster.listed identity).Nodup
  listed : ∀ identity session, session ∈ roster.listed identity ↔
    ∃ viewer, roster.viewer? session = some viewer ∧ viewer.identity = identity

theorem exact_empty : empty.Exact where
  sessions := List.nodup_nil
  own := by
    intro session viewer found
    cases found
  distinct := by
    intro identity
    exact List.nodup_nil
  listed := by
    intro identity session
    constructor
    · intro member
      cases member
    · rintro ⟨viewer, found, -⟩
      cases found

theorem Exact.register
    (exact : roster.Exact)
    (unused : roster.viewer? viewer.session = none) :
    (roster.register viewer).2.Exact := by
  have unlisted (identity : String) : viewer.session ∉ roster.listed identity := by
    intro member
    rcases (exact.listed identity viewer.session).mp member with ⟨other, found, -⟩
    rw [unused] at found
    cases found
  constructor
  · rw [Roster.register, if_neg (by simp [unused])]
    show (viewer.session :: roster.sessions.map Prod.fst).Nodup
    apply List.nodup_cons.mpr
    constructor
    · intro member
      rcases List.mem_map.mp member with ⟨entry, inSessions, same⟩
      have passed := List.lookup_eq_none_iff.mp unused entry inSessions
      simp [same] at passed
    · exact exact.sessions
  · intro session found here
    rw [viewer?_register unused] at here
    split at here
    case isTrue same =>
      cases here
      exact same.symm
    case isFalse => exact exact.own session found here
  · intro identity
    rw [listed_register unused]
    split
    · exact List.nodup_cons.mpr ⟨unlisted viewer.identity, exact.distinct viewer.identity⟩
    · exact exact.distinct identity
  · intro identity session
    rw [listed_register unused, viewer?_register unused]
    by_cases same : session = viewer.session
    · subst same
      have alone : viewer.session ∉ roster.listed identity := unlisted identity
      by_cases own : identity = viewer.identity
      · simp [own]
      · simp [own, alone, Ne.symm own]
    · rw [if_neg same, ← exact.listed identity session]
      by_cases own : identity = viewer.identity
      · simp [own, same]
      · simp [own]

theorem Exact.unregister (exact : roster.Exact) (session : Nat) :
    (roster.unregister session).2.Exact := by
  cases found : roster.viewer? session with
  | none =>
      rw [unregister_of_none found]
      exact exact
  | some viewer =>
      constructor
      · rw [Roster.unregister, found]
        exact exact.sessions.sublist (List.Sublist.map Prod.fst List.filter_sublist)
      · intro other registered here
        rw [viewer?_unregister] at here
        split at here
        · cases here
        · exact exact.own other registered here
      · intro identity
        rw [listed_unregister found]
        split
        · exact (exact.distinct viewer.identity).filter _
        · exact exact.distinct identity
      · intro identity other
        rw [listed_unregister found, viewer?_unregister]
        by_cases own : identity = viewer.identity
        · subst own
          by_cases same : other = session
          · simp [same]
          · simp [same, exact.listed viewer.identity other]
        · rw [if_neg own, exact.listed identity other]
          by_cases same : other = session
          · subst same
            simp [found, Ne.symm own]
          · rw [if_neg same]

/-! ## Viewers -/

theorem Exact.mem_viewers (exact : roster.Exact) :
    viewer ∈ roster.viewers ↔ roster.viewer? viewer.session = some viewer := by
  constructor
  · intro member
    rcases List.mem_map.mp member with ⟨⟨session, other⟩, inSessions, rfl⟩
    have found : roster.viewer? session = some other :=
      lookup_of_mem exact.sessions inSessions
    rw [exact.own session other found]
    exact found
  · intro found
    rcases List.lookup_eq_some_iff.mp found with ⟨before, after, split, -⟩
    apply List.mem_map.mpr
    exact ⟨(viewer.session, viewer), by rw [split]; simp, rfl⟩

theorem Exact.map_session_ofIdentity (exact : roster.Exact) (identity : String) :
    (roster.ofIdentity identity).map Viewer.session = roster.listed identity := by
  have known (session : Nat) (member : session ∈ roster.listed identity) :
      (roster.viewer? session).map Viewer.session = some session := by
    rcases (exact.listed identity session).mp member with ⟨viewer, found, -⟩
    rw [found]
    exact congrArg some (exact.own session viewer found)
  rw [ofIdentity, List.map_filterMap]
  calc
    (roster.listed identity).filterMap (fun session => (roster.viewer? session).map Viewer.session)
      = (roster.listed identity).filterMap some := List.filterMap_congr known
    _ = roster.listed identity := List.filterMap_some

theorem Exact.mem_ofIdentity (exact : roster.Exact) :
    viewer ∈ roster.ofIdentity identity ↔
      roster.viewer? viewer.session = some viewer ∧ viewer.identity = identity := by
  rw [ofIdentity, List.mem_filterMap]
  constructor
  · rintro ⟨session, listed, found⟩
    rcases (exact.listed identity session).mp listed with ⟨other, same, own⟩
    cases found.symm.trans same
    rw [exact.own session viewer found]
    exact ⟨found, own⟩
  · rintro ⟨found, own⟩
    exact ⟨viewer.session, (exact.listed identity viewer.session).mpr ⟨viewer, found, own⟩, found⟩

theorem Exact.nodup_ofIdentity (exact : roster.Exact) (identity : String) :
    (roster.ofIdentity identity).Nodup := by
  apply List.Nodup.of_map Viewer.session
  rw [exact.map_session_ofIdentity]
  exact exact.distinct identity

theorem Exact.nodup_viewers (exact : roster.Exact) : roster.viewers.Nodup := by
  have keys : roster.viewers.map Viewer.session = roster.sessions.map Prod.fst := by
    rw [viewers, List.map_map]
    apply List.map_congr_left
    rintro ⟨session, viewer⟩ member
    exact exact.own session viewer (lookup_of_mem exact.sessions member)
  apply List.Nodup.of_map Viewer.session
  rw [keys]
  exact exact.sessions

theorem register_fst (unused : roster.viewer? viewer.session = none) :
    (roster.register viewer).1 = true := by
  rw [register, if_neg (by simp [unused])]

theorem count_register (unused : roster.viewer? viewer.session = none) :
    (roster.register viewer).2.count = roster.count + 1 := by
  rw [register, if_neg (by simp [unused])]
  rfl

theorem Exact.count_unregister
    (exact : roster.Exact)
    (found : roster.viewer? session = some viewer) :
    (roster.unregister session).2.count + 1 = roster.count := by
  have member : session ∈ roster.sessions.map Prod.fst := by
    rcases List.lookup_eq_some_iff.mp found with ⟨before, after, split, -⟩
    rw [split]
    simp
  have once : (roster.sessions.filter fun entry => entry.1 = session).length = 1 := by
    rw [← List.countP_eq_length_filter]
    have counted := List.count_eq_one_of_mem exact.sessions member
    rw [List.count, List.countP_map] at counted
    exact counted
  rw [Roster.unregister, found]
  show (roster.sessions.filter fun entry => entry.1 ≠ session).length + 1 =
    roster.sessions.length
  rw [roster.sessions.length_eq_length_filter_add fun entry => decide (entry.1 = session), once,
    Nat.add_comm]
  simp

end FrameChat.Roster
