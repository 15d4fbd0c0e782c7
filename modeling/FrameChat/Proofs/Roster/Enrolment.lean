import FrameChat.Proofs.Roster
import Mathlib.Data.Finset.Card

/-!
# Who is enrolled

Whatever is asked of a roster, and in whatever order, it stays the same as a plain map from
session numbers to viewers (`Enrolment`), in which a number that is in use is not given out
again.  The sessions listed under each identity are the inverse of that map: they are
determined by it, and no identity is kept without a session.

* `Agrees`: a roster and an enrolment say the same, in both lists of the roster.
* `Agrees.after`: they go on to agree, whatever is asked.
* `lists_stay_inverse`: what follows for all that a roster is asked.
-/

namespace FrameChat.Roster

variable {roster : Roster} {session : Nat} {viewer : Viewer} {identity : String}

/-- What is asked of a roster. -/
inductive Request where
  | register (viewer : Viewer)
  | unregister (session : Nat)
  deriving DecidableEq, Repr

/-- The roster after a request. -/
def answer (roster : Roster) : Request → Roster
  | .register viewer => (roster.register viewer).2
  | .unregister session => (roster.unregister session).2

/-- The roster after requests, one after the other. -/
def after (roster : Roster) (requests : List Request) : Roster :=
  requests.foldl answer roster

/-- The viewer of each session. -/
abbrev Enrolment := Nat → Option Viewer

/-- The enrolment after a request: whoever has a number keeps it until it is given up. -/
def Enrolment.answer (enrolment : Enrolment) : Request → Enrolment
  | .register viewer =>
      Function.update enrolment viewer.session
        (some ((enrolment viewer.session).getD viewer))
  | .unregister session => Function.update enrolment session none

/-- The enrolment after requests, when nobody was enrolled before. -/
def enrolled (requests : List Request) : Enrolment :=
  requests.foldl Enrolment.answer fun _ => none

/-! ## The entries of identities -/

/-- Every identity has one entry, and in it at least one session. -/
structure Populated (identities : List (String × List Nat)) : Prop where
  distinct : (identities.map Prod.fst).Nodup
  inhabited : ∀ entry ∈ identities, entry.2 ≠ []

theorem Populated.relist (populated : Populated roster.identities) (identity : String)
    (sessions : List Nat) : Populated (roster.relist identity sessions) := by
  have others : Populated (roster.identities.filter fun entry => entry.1 ≠ identity) :=
    ⟨populated.distinct.sublist (List.filter_sublist.map Prod.fst),
      fun entry member => populated.inhabited entry (List.mem_of_mem_filter member)⟩
  rw [Roster.relist]
  cases sessions with
  | nil => exact others
  | cons session rest =>
      constructor
      · refine List.nodup_cons.mpr ⟨fun member => ?_, others.distinct⟩
        rcases List.mem_map.mp member with ⟨entry, kept, same⟩
        simp [same] at kept
      · intro entry member
        rcases List.mem_cons.mp member with rfl | member
        · exact List.cons_ne_nil session rest
        · exact others.inhabited entry member

theorem register_of_some {other : Viewer} (used : roster.viewer? viewer.session = some other) :
    roster.register viewer = (false, roster) := by
  rw [register, if_pos (by simp [used])]

/-- Whatever is asked, an identity is kept as long as it has a session. -/
theorem Populated.answer (populated : Populated roster.identities) (request : Request) :
    Populated (roster.answer request).identities := by
  cases request with
  | register viewer =>
      rw [Roster.answer]
      cases used : roster.viewer? viewer.session with
      | some other =>
          rw [register_of_some used]
          exact populated
      | none =>
          rw [register, if_neg (by simp [used])]
          exact populated.relist viewer.identity (viewer.session :: roster.listed viewer.identity)
  | unregister session =>
      rw [Roster.answer]
      cases found : roster.viewer? session with
      | none =>
          rw [unregister_of_none found]
          exact populated
      | some viewer =>
          rw [unregister, found]
          exact populated.relist _ _

/-! ## Roster and enrolment -/

/-- Both lists of a roster are in order and say who is enrolled. -/
structure Agrees (roster : Roster) (enrolment : Enrolment) : Prop where
  exact : roster.Exact
  populated : Populated roster.identities
  same : ∀ session, roster.viewer? session = enrolment session

namespace Agrees

variable {enrolment : Enrolment}

theorem empty : Agrees empty fun _ => none where
  exact := exact_empty
  populated := ⟨List.nodup_nil, nofun⟩
  same _ := rfl

theorem answer (agrees : Agrees roster enrolment) (request : Request) :
    Agrees (roster.answer request) (enrolment.answer request) := by
  have populated := agrees.populated.answer request
  cases request with
  | register viewer =>
      rw [Roster.answer] at populated ⊢
      cases used : roster.viewer? viewer.session with
      | some other =>
          rw [register_of_some used]
          refine ⟨agrees.exact, agrees.populated, fun session => ?_⟩
          rw [Enrolment.answer, ← agrees.same viewer.session, used, Option.getD_some,
            Function.update_apply]
          split
          case isTrue here => rw [here, used]
          case isFalse => exact agrees.same session
      | none =>
          refine ⟨agrees.exact.register used, populated, fun session => ?_⟩
          rw [viewer?_register used, Enrolment.answer, ← agrees.same viewer.session, used,
            Option.getD_none, Function.update_apply, agrees.same session]
  | unregister session =>
      refine ⟨agrees.exact.unregister session, populated, fun other => ?_⟩
      rw [Roster.answer, viewer?_unregister, Enrolment.answer, Function.update_apply,
        agrees.same other]

theorem after (agrees : Agrees roster enrolment) (requests : List Request) :
    Agrees (roster.after requests) (requests.foldl Enrolment.answer enrolment) := by
  induction requests generalizing roster enrolment with
  | nil => exact agrees
  | cons request rest ih => exact ih (agrees.answer request)

theorem mem_listed_iff (agrees : Agrees roster enrolment) :
    session ∈ roster.listed identity ↔
      ∃ viewer, enrolment session = some viewer ∧ viewer.identity = identity := by
  rw [← agrees.same session]
  exact agrees.exact.listed identity session

/-- An entry of an identity holds all of its sessions. -/
theorem mem_identities_iff (agrees : Agrees roster enrolment) {sessions : List Nat} :
    (identity, sessions) ∈ roster.identities ↔
      sessions ≠ [] ∧ roster.listed identity = sessions := by
  constructor
  · intro member
    refine ⟨agrees.populated.inhabited _ member, ?_⟩
    rw [Roster.listed, lookup_of_mem agrees.populated.distinct member, Option.getD_some]
  · rintro ⟨inhabited, rfl⟩
    rw [Roster.listed] at inhabited ⊢
    cases found : roster.identities.lookup identity with
    | none =>
        rw [found] at inhabited
        exact absurd rfl inhabited
    | some sessions => exact mem_of_lookup found

theorem mem_ofIdentity_iff (agrees : Agrees roster enrolment) :
    viewer ∈ roster.ofIdentity identity ↔
      enrolment viewer.session = some viewer ∧ viewer.identity = identity := by
  rw [← agrees.same viewer.session]
  exact agrees.exact.mem_ofIdentity

/-- As many are counted as there are numbers in use. -/
theorem count_eq (agrees : Agrees roster enrolment) :
    ∃ inUse : Finset Nat, (∀ session, session ∈ inUse ↔ (enrolment session).isSome) ∧
      roster.count = inUse.card := by
  refine ⟨(roster.sessions.map Prod.fst).toFinset, fun session => ?_, ?_⟩
  · rw [List.mem_toFinset, mem_map_fst_iff, ← agrees.same session, Option.isSome_iff_exists]
    rfl
  · rw [List.toFinset_card_of_nodup agrees.exact.sessions, List.length_map, count]

end Agrees

/--
Whatever was asked of a roster, its two lists are inverse to each other.  A session is listed
under an identity exactly if it is enrolled with that identity, an identity is kept exactly if
it has a session, the viewers of an identity are those who are enrolled with it, each of them
once, and as many viewers are counted as there are numbers in use.  Whoever asks for a number
that is in use is refused, whoever gives up a number that is not is told so, and neither
changes anything.
-/
theorem lists_stay_inverse (requests : List Request) :
    let roster := empty.after requests
    (∀ session, roster.viewer? session = enrolled requests session) ∧
    (∀ identity session, session ∈ roster.listed identity ↔
      ∃ viewer, enrolled requests session = some viewer ∧ viewer.identity = identity) ∧
    (roster.identities.map Prod.fst).Nodup ∧
    (∀ identity sessions, (identity, sessions) ∈ roster.identities ↔
      sessions ≠ [] ∧ roster.listed identity = sessions) ∧
    (∀ identity, (roster.listed identity).Nodup ∧ (roster.ofIdentity identity).Nodup ∧
      ∀ viewer, viewer ∈ roster.ofIdentity identity ↔
        enrolled requests viewer.session = some viewer ∧ viewer.identity = identity) ∧
    (∃ inUse : Finset Nat, (∀ session, session ∈ inUse ↔ (enrolled requests session).isSome) ∧
      roster.count = inUse.card) ∧
    (∀ viewer, ((roster.register viewer).1 = false ↔
        (enrolled requests viewer.session).isSome) ∧
      ((roster.register viewer).1 = false → (roster.register viewer).2 = roster)) ∧
    (∀ session, (roster.unregister session).1 = enrolled requests session ∧
      (enrolled requests session = none → (roster.unregister session).2 = roster)) := by
  intro roster
  have agrees : Agrees roster (enrolled requests) := Agrees.empty.after requests
  refine ⟨agrees.same, fun _ _ => agrees.mem_listed_iff, agrees.populated.distinct,
    fun _ _ => agrees.mem_identities_iff, fun identity => ?_, agrees.count_eq,
    fun viewer => ?_, fun session => ?_⟩
  · exact ⟨agrees.exact.distinct identity, agrees.exact.nodup_ofIdentity identity,
      fun _ => agrees.mem_ofIdentity_iff⟩
  · rw [← agrees.same viewer.session]
    cases used : roster.viewer? viewer.session with
    | some other => simp [register_of_some used]
    | none => simp [register_fst used]
  · rw [← agrees.same session]
    exact ⟨unregister_fst roster session, fun absent => by rw [unregister_of_none absent]⟩

/-- A number is not taken over, but can be given out again after it was given up. -/
example :
    let ann : Viewer := ⟨1, "ann", .wide, .v4 192 0 2 1⟩
    let bo : Viewer := ⟨1, "bo", .wide, .v4 192 0 2 1⟩
    ((empty.after [.register ann, .register bo]).ofIdentity "bo",
      (empty.after [.register ann, .unregister 1, .register bo]).ofIdentity "bo") =
        ([], [bo]) := by
  decide

end FrameChat.Roster
