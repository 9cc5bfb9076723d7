import Cowrite.Session.Binding
import Cowrite.Session.Outbox
import Cowrite.Session.Status

/-!
# A session

Everything that exists only while somebody takes part in a session: the replica of the document,
the binding of the buffer to it, the outbox of edits, the connection, and what is known about the
others. The buffer belongs to the editor and the transport to the outside world, so both are
handed in and given back changed.
-/

namespace Cowrite

/-- The state of a session. -/
structure Session where
  role : Role
  mode : TransportMode
  replica : Replica
  binding : Binding
  outbox : Outbox
  connection : Connection
  /-- How often the buffer had to be made equal to the document again. -/
  repairs : Nat := 0
  invitation : Option Invitation := none
  /-- The peers that are connected, in alphabetical order. -/
  peers : List String := []
  /-- Whether an update is in the document but not in the buffer yet. -/
  deferred : Bool := false
  /-- Whether any content of others has arrived. -/
  contentReceived : Bool := false
  /-- Whether the next first state follows a reconnection. -/
  resync : Bool := false
  startedAt : Nat
  deriving DecidableEq

namespace Session

def isHost (session : Session) : Bool :=
  session.role = .host

/-- The invitation in writing. -/
def code? (session : Session) : Option String :=
  session.invitation.map Invitation.encode

/-- Put what was typed into the document. -/
def observe (session : Session) (buffer : Buffer) (now : Nat) : Session × Buffer :=
  let (observation, binding, buffer, replica) :=
    session.binding.observe buffer session.replica now
  let outbox :=
    if observation = .edited then session.outbox.recordEdit now else session.outbox
  ({ session with binding, replica, outbox }, buffer)

/-- Send what is pending, if it is time to. -/
def flush {ν : Type} [Transport ν] (session : Session) (network : ν) (now : Nat) (force : Bool) :
    FlushOutcome × Session × ν :=
  let send (update : Update) (network : ν) : Except TransportError Unit × ν :=
    match session.connection.client with
    | none => (.error .closed, network)
    | some client => Transport.send network client (.update update)
  let (outcome, outbox, network) := session.outbox.flush session.replica now force send network
  (outcome, { session with outbox }, network)

/-- Make the buffer show the document. -/
def display (session : Session) (buffer : Buffer) (now : Nat) : Session × Buffer :=
  let (walks, replica) := session.replica.takeWalks
  let (_, binding, buffer) := session.binding.displayAlong buffer walks replica.text now
  ({ session with replica, binding, deferred := false }, buffer)

/-- Make the buffer show the document, or remember to do it if the user is typing. -/
def displayOrDefer (session : Session) (buffer : Buffer) (now : Nat) : Session × Buffer :=
  if session.outbox.isTyping now then ({ session with deferred := true }, buffer)
  else session.display buffer now

/-- Repair the buffer if it differs from the document. -/
def reconcile (session : Session) (buffer : Buffer) (now : Nat) : Session × Buffer :=
  let (outcome, binding, buffer, replica) :=
    session.binding.reconcile buffer session.replica now
  let repairs := if outcome = .repaired then session.repairs + 1 else session.repairs
  ({ session with binding, replica, repairs }, buffer)

/-- Put a peer among the others. -/
def insertPeer (peer : String) : List String → List String
  | [] => [peer]
  | other :: rest =>
      if peer < other then peer :: other :: rest
      else if peer = other then other :: rest
      else other :: insertPeer peer rest

end Session

end Cowrite
