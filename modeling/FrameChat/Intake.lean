import FrameChat.Intake.Sanitize
import FrameChat.Token.Guard

/-!
# The intake

The intake is the front door for messages.  It knows its limits, issues and
checks tokens, and makes addresses wait between submissions.
-/

namespace FrameChat

/-- Limits on submissions. -/
structure Intake.Limits where
  requireToken : Bool
  /-- milliseconds between submissions from one address; zero for no wait -/
  cooldown : Nat
  /-- addresses that are made to wait at most -/
  cooldownCapacity : Nat
  maxMessageBytes : Nat
  maxMessageLines : Nat
  maxNameChars : Nat
  maxIdentityChars : Nat
  /-- spent tokens that are remembered -/
  tokenCapacity : Nat
  deriving DecidableEq, Repr

/-- The usual limits. -/
def Intake.Limits.standard : Intake.Limits :=
  { requireToken := true
    cooldown := 1000
    cooldownCapacity := 100000
    maxMessageBytes := 1024
    maxMessageLines := 10
    maxNameChars := 50
    maxIdentityChars := 20
    tokenCapacity := Token.defaultCapacity }

/-- Addresses that submitted lately, latest first, each with the instant of its submission. -/
abbrev Intake.Cooldowns := List (Net.Address × Nat)

/-- The state of the intake. -/
structure Intake where
  limits : Intake.Limits
  guard : Token.Guard
  cooldowns : Intake.Cooldowns

namespace Intake

/-- An intake that has seen nothing. -/
def new (limits : Limits) (key : Bytes) : Intake :=
  ⟨limits, Token.Guard.new key limits.tokenCapacity, []⟩

/-- Whom a token is issued to. -/
def binding (identity : String) (address : Net.Address) : String :=
  identity ++ "@" ++ address.text

/-- A name of a channel as it is used. -/
def channelName (intake : Intake) (raw : String) : String :=
  cleanName raw intake.limits.maxNameChars

/-- An identity as it is used. -/
def identity (intake : Intake) (raw : String) : String :=
  cleanName raw intake.limits.maxIdentityChars

/-- The identity of someone who states a name or none. -/
def resolvedIdentity (intake : Intake) (stated : Option String) (address : Net.Address) : String :=
  match stated.map intake.identity with
  | some identity => if identity.isEmpty then addressIdentity address else identity
  | none => addressIdentity address

/-- The entries that still make their address wait at an instant. -/
def waiting (limits : Limits) (instant : Nat) (cooldowns : Cooldowns) : Cooldowns :=
  cooldowns.filter fun entry => instant < entry.2 + limits.cooldown

/--
Let a submission from an address pass at an instant, or make it wait.  Who
passes becomes the latest and has to wait from now on; who waits changes nothing.
-/
def pass (intake : Intake) (address : Net.Address) (instant : Nat) : Bool × Intake :=
  if intake.limits.cooldown = 0 then (true, intake)
  else if (waiting intake.limits instant intake.cooldowns).any fun entry => entry.1 = address then
    (false, intake)
  else
    let others := intake.cooldowns.filter fun entry => entry.1 ≠ address
    (true,
      { intake with
        cooldowns := ((address, instant) :: others).take intake.limits.cooldownCapacity })

/-- Number of addresses that wait at an instant. -/
def coolingDown (intake : Intake) (instant : Nat) : Nat :=
  (waiting intake.limits instant intake.cooldowns).length

/-- The seconds that tokens are counted in: times before 1970 count as zero. -/
def tokenSeconds (now : Seconds) : Nat :=
  now.toInt.toNat

end Intake

end FrameChat
