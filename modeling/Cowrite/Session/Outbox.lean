import Cowrite.Replica.Basic
import Cowrite.Transport.Basic

/-!
# The outbox of local edits

Edits are not sent as they happen. The outbox only remembers that there are some, and a flush
sends everything at once after nothing was typed for a while. What it sends is what the others do
not have yet: the outbox keeps the version that they are known to hold, and an update since that
version goes out, or the whole state when no version is known or the known one is unreadable.

An edit stays pending until a transport has accepted an update that holds it.
-/

namespace Cowrite

/-- What a flush came to. -/
inductive FlushOutcome where
  /-- Nothing was pending. -/
  | idle
  /-- The user is still typing. -/
  | waiting
  /-- There was nothing in the document that the others do not have. -/
  | nothingChanged
  | sent
  /-- The transport refused the update, which stays pending. -/
  | failed
  deriving DecidableEq, Repr

/-- What is known about unsent edits. -/
structure Outbox where
  /-- How long nothing may be typed before edits are sent. -/
  window : Nat
  /-- When the last edit happened. -/
  lastEdit : Option Nat := none
  pending : Bool := false
  /-- The version that the others are known to hold. -/
  lastSent : Option VersionToken := none
  deriving DecidableEq, Repr

namespace Outbox

/-- Note an edit. -/
def recordEdit (outbox : Outbox) (now : Nat) : Outbox :=
  { outbox with lastEdit := some now, pending := true }

/-- Note that there is something to send, without counting it as typing. -/
def markPending (outbox : Outbox) : Outbox :=
  { outbox with pending := true }

/-- Whether something was typed a moment ago. -/
def isTyping (outbox : Outbox) (now : Nat) : Bool :=
  match outbox.lastEdit with
  | none => false
  | some edited => now - edited < outbox.window

/-- Whether nothing was typed a moment ago and nothing is pending. -/
def isIdle (outbox : Outbox) (now : Nat) : Bool :=
  !outbox.isTyping now && !outbox.pending

/-- Whether a flush should send now; a forced one does not wait for the user to stop typing. -/
def shouldFlush (outbox : Outbox) (now : Nat) (force : Bool) : Bool :=
  outbox.pending && (force || !outbox.isTyping now)

/-- Forget what the others hold, so that the whole state is sent next. -/
def resetSent (outbox : Outbox) : Outbox :=
  { outbox with lastSent := none }

/-- Note the version that the others hold. -/
def recordVersion (outbox : Outbox) (token : VersionToken) : Outbox :=
  { outbox with lastSent := some token }

/-- What the others do not have. -/
def updateFor (outbox : Outbox) (replica : Replica) : Update :=
  match outbox.lastSent with
  | none => replica.fullState
  | some token =>
      match replica.updateSinceToken token with
      | .ok update => update
      | .error _ => replica.fullState

/-- Send what is pending, if it is time to. Sending changes something of type `σ`, a transport. -/
def flush {σ : Type} (outbox : Outbox) (replica : Replica) (now : Nat) (force : Bool)
    (send : Update → σ → Except TransportError Unit × σ) (state : σ) :
    FlushOutcome × Outbox × σ :=
  if !outbox.pending then (.idle, outbox, state)
  else if !outbox.shouldFlush now force then (.waiting, outbox, state)
  else
    let update := outbox.updateFor replica
    if update.isEmpty then (.nothingChanged, { outbox with pending := false }, state)
    else
      match send update state with
      | (.ok (), state) =>
          (.sent, { outbox with pending := false, lastSent := some replica.token }, state)
      | (.error _, state) => (.failed, outbox, state)

end Outbox

end Cowrite
