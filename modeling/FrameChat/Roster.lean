import FrameChat.Net.Address
import FrameChat.Picture.Viewport

/-!
# Rosters

A roster lists the viewers of a channel by session number, and beside that the
sessions of each identity, so that the viewers of an identity are found without
a search.
-/

namespace FrameChat

/-- A connected viewer. -/
structure Viewer where
  /-- number of the session, unique within its channel -/
  session : Nat
  identity : String
  viewport : Viewport
  address : Net.Address
  deriving DecidableEq, Repr

/-- The viewers of a channel, and the sessions of each identity. -/
structure Roster where
  sessions : List (Nat × Viewer)
  identities : List (String × List Nat)
  deriving DecidableEq, Repr

namespace Roster

/-- Nobody is watching. -/
def empty : Roster :=
  ⟨[], []⟩

/-- The sessions listed under an identity. -/
def listed (roster : Roster) (identity : String) : List Nat :=
  (roster.identities.lookup identity).getD []

/-- Set the sessions listed under an identity; an identity without sessions is not kept. -/
def relist (roster : Roster) (identity : String) (sessions : List Nat) :
    List (String × List Nat) :=
  let others := roster.identities.filter fun entry => entry.1 ≠ identity
  if sessions.isEmpty then others else (identity, sessions) :: others

/-- The viewer of a session. -/
def viewer? (roster : Roster) (session : Nat) : Option Viewer :=
  roster.sessions.lookup session

/-- Add a viewer; a session number that is in use is refused. -/
def register (roster : Roster) (viewer : Viewer) : Bool × Roster :=
  if (roster.viewer? viewer.session).isSome then (false, roster)
  else
    (true,
      { sessions := (viewer.session, viewer) :: roster.sessions
        identities :=
          roster.relist viewer.identity (viewer.session :: roster.listed viewer.identity) })

/-- Remove the viewer of a session. -/
def unregister (roster : Roster) (session : Nat) : Option Viewer × Roster :=
  match roster.viewer? session with
  | none => (none, roster)
  | some viewer =>
      (some viewer,
        { sessions := roster.sessions.filter fun entry => entry.1 ≠ session
          identities :=
            roster.relist viewer.identity
              ((roster.listed viewer.identity).filter fun listed => listed ≠ session) })

/-- The viewers connected under an identity. -/
def ofIdentity (roster : Roster) (identity : String) : List Viewer :=
  (roster.listed identity).filterMap roster.viewer?

/-- All viewers. -/
def viewers (roster : Roster) : List Viewer :=
  roster.sessions.map Prod.snd

/-- Number of viewers. -/
def count (roster : Roster) : Nat :=
  roster.sessions.length

/-- Whether nobody is watching. -/
def isEmpty (roster : Roster) : Bool :=
  roster.sessions.isEmpty

end Roster

end FrameChat
