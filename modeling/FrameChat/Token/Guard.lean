import FrameChat.Cipher.Seal
import FrameChat.RecentSet
import FrameChat.Text.Hex
import FrameChat.Token.Payload

/-!
# Issuing and spending tokens

A guard seals tokens under its key and accepts each of them once.  A presented
text is opened first, then compared with whom it is presented by, then checked
for its age, and only then spent.  The payloads of spent tokens are remembered
in a set that forgets the oldest.
-/

namespace FrameChat.Token

/-- Seconds for which a token can be spent. -/
def maxAge : Nat := 24 * 60 * 60

/-- Spent tokens that are remembered unless configured otherwise. -/
def defaultCapacity : Nat := 60000

/-- Bytes of a sealed token. -/
def sealedLength : Nat :=
  Cipher.Seal.nonceLength + Payload.byteLength + Cipher.Seal.tagLength

/-- Why a presented token is refused. -/
inductive Refusal where
  | malformed
  | identityMismatch
  | expired (age : Nat)
  | replayed
  deriving DecidableEq, Repr

/-- How a refusal is worded. -/
def Refusal.message : Refusal → String
  | .malformed => "malformed token"
  | .identityMismatch => "token bound to another identity"
  | .expired age => s!"token expired ({age}s old)"
  | .replayed => "token already used"

/-- A key, the serial number of the next token, and the payloads already spent. -/
structure Guard where
  key : Bytes
  nextSerial : UInt32
  spent : RecentSet Payload
  deriving Repr

namespace Guard

/-- A guard that has issued nothing and remembers at most `capacity` spent tokens. -/
def new (key : Bytes) (capacity : Nat) : Guard :=
  ⟨key, 0, RecentSet.empty capacity⟩

/-- The text of a payload sealed under a key and a nonce. -/
def sealPayload (key nonce : Bytes) (payload : Payload) : String :=
  Text.Hex.encode (nonce ++ Cipher.Seal.encrypt key nonce payload.bytes)

/-- The payload for a binding, issued at a time of at most 64 bits. -/
def payloadFor (guard : Guard) (binding : String) (now : Nat) : Payload :=
  ⟨bindingHash binding, UInt32.ofNat now, guard.nextSerial⟩

/-- Issue a token for a binding. -/
def issue (guard : Guard) (binding : String) (now : Nat) (nonce : Bytes) : String × Guard :=
  (sealPayload guard.key nonce (guard.payloadFor binding now),
    { guard with nextSerial := guard.nextSerial + 1 })

/-- The payload of a presented text, if it was sealed under the guard's key. -/
def payload? (guard : Guard) (token : String) : Option Payload := do
  let bytes ← Text.Hex.decode? token
  if bytes.length = sealedLength then
    let nonce := bytes.take Cipher.Seal.nonceLength
    let plain ← Cipher.Seal.decrypt? guard.key nonce (bytes.drop Cipher.Seal.nonceLength)
    Payload.ofBytes? plain
  else
    none

/-- Seconds since a payload was issued: the present is cut to 32 bits, and a later issue counts as zero. -/
def age (payload : Payload) (now : Nat) : Nat :=
  now % UInt32.size - payload.issuedAt.toNat

/-- Judge a payload and spend it if nothing speaks against it. -/
def spend (guard : Guard) (payload : Payload) (binding : String) (now : Nat) :
    Except Refusal Unit × Guard :=
  if payload.binding ≠ bindingHash binding then (.error .identityMismatch, guard)
  else if maxAge < age payload now then (.error (.expired (age payload now)), guard)
  else
    let verdict := if guard.spent.contains payload then .error .replayed else .ok ()
    (verdict, { guard with spent := guard.spent.refresh payload })

/-- Judge a presented text and spend its token if nothing speaks against it. -/
def validate (guard : Guard) (token binding : String) (now : Nat) :
    Except Refusal Unit × Guard :=
  match guard.payload? token with
  | none => (.error .malformed, guard)
  | some payload => guard.spend payload binding now

/-- Number of spent tokens that are remembered. -/
def remembered (guard : Guard) : Nat :=
  guard.spent.size

end Guard

end FrameChat.Token
