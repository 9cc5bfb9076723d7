import Cowrite.Crypto.Gcm
import Cowrite.Telemetry

/-!
# Session keys

The members of an encrypted session share a key of 32 bytes, which only travels inside the
session's invitation. What passes through a relay server is sealed under it with a fresh nonce
each time, and the server cannot read it or make up anything that opens.
-/

namespace Cowrite

/-- What goes wrong around keys. -/
inductive CryptoError where
  /-- There is no source of random bytes. -/
  | noRandomness
  | invalidKey
  /-- A sealed text is shorter than a nonce and a tag. -/
  | truncated (size : Nat)
  | cannotSeal
  /-- A sealed text does not carry the right tag. -/
  | cannotOpen
  deriving DecidableEq, Repr

namespace CryptoError

def message : CryptoError → String
  | .noRandomness => "system random source unavailable"
  | .invalidKey => "invalid session key"
  | .truncated size => s!"sealed payload too short ({size} bytes)"
  | .cannotSeal => "failed to seal payload"
  | .cannotOpen => "failed to open sealed payload: wrong key or tampered data"

def report (error : CryptoError) : Report :=
  { message := error.message, code := some "tandem::crypto" }

end CryptoError

/-- A key shared by everyone in a session. -/
structure SessionKey where
  bytes : Bytes
  length_bytes : bytes.length = 32
  deriving DecidableEq

namespace SessionKey

theorem length_zeros : (List.replicate 32 0 : Bytes).length = 32 :=
  List.length_replicate

/-- The key with the given bytes, if they have the right number. -/
def ofBytes? (bytes : Bytes) : Option SessionKey :=
  if length : bytes.length = 32 then some ⟨bytes, length⟩ else none

/-- What a log may show of a key. -/
def redacted (_ : SessionKey) : String :=
  "SessionKey(..)"

/-- Seal a text with a nonce of twelve bytes. -/
def sealText (key : SessionKey) (nonce text : Bytes) : Bytes :=
  Gcm.sealText key.bytes nonce text

/-- Open a sealed text. -/
def openText (key : SessionKey) (sealed : Bytes) : Except CryptoError Bytes :=
  if sealed.length < Gcm.nonceSize + Gcm.tagSize then .error (.truncated sealed.length)
  else
    match Gcm.openText key.bytes sealed with
    | some text => .ok text
    | none => .error .cannotOpen

end SessionKey

end Cowrite
