import Cowrite.Session.Agenda
import Cowrite.Session.Settings
import Cowrite.Transport.Class

/-!
# The connection of a session

A connection is made, confirmed, lost and made again. Each attempt goes under a new client name
and has to be confirmed before its timeout. When a connection is lost, an attempt to make a new one
is put on the agenda, each after a longer wait than the one before, until too many have failed in
a row. Signals that arrive while an attempt is already on the agenda change nothing, and events
about any other client than the present one are thrown away unread.

What happens to a connection also happens to the agenda and to the transport, so the operations
work on the three together (`Line`).
-/

namespace Cowrite

/-- Where a connection stands. -/
inductive ConnectionState where
  | disconnected
  | connecting
  | connected
  /-- Waiting for the state of the document. -/
  | syncing
  | synced
  | reconnecting (attempt : Nat)
  /-- Too many attempts have failed. -/
  | failed
  deriving DecidableEq, Repr

namespace ConnectionState

def isSynced (state : ConnectionState) : Bool :=
  state = .synced

def isReconnecting : ConnectionState → Bool
  | .reconnecting _ => true
  | _ => false

/-- Whether an attempt to connect is under way or planned. -/
def isUnconfirmed : ConnectionState → Bool
  | .connecting => true
  | .reconnecting _ => true
  | _ => false

def text : ConnectionState → String
  | .disconnected => "disconnected"
  | .connecting => "connecting"
  | .connected => "connected"
  | .syncing => "syncing"
  | .synced => "synced"
  | .reconnecting attempt => s!"reconnecting ({attempt})"
  | .failed => "failed"

end ConnectionState

/-- What came of a lost connection. -/
inductive LossOutcome where
  /-- It was meant to be lost, or an attempt is planned already. -/
  | ignored
  /-- An attempt is planned, after a wait. -/
  | scheduled (attempt delay : Nat)
  /-- All attempts have failed. -/
  | exhausted (attempts : Nat)
  deriving DecidableEq, Repr

/-- What came of an attempt to reconnect. -/
inductive RedialOutcome where
  | dialing
  | lost (outcome : LossOutcome)
  deriving DecidableEq, Repr

/-- The connection of a session. -/
structure Connection where
  mailbox : Address
  target : ConnectTarget
  key : Option SessionKey
  backoff : Backoff
  /-- How long an attempt to connect may take. -/
  timeout : Nat
  /-- The present client. -/
  client : Option ClientId := none
  state : ConnectionState := .disconnected
  /-- Losses since a connection was last confirmed, counted with 32 bits. -/
  attempts : Nat := 0
  /-- Whether the session is being left. -/
  leaving : Bool := false
  deriving DecidableEq

/-- The count after one more loss. With 32 bits it begins anew when it would leave them, where a
program that checks its sums stops. -/
def Connection.nextAttempt (attempts : Nat) : Nat :=
  (attempts + 1) % (1 <<< 32)

theorem Connection.nextAttempt_of_lt {attempts : Nat} (room : attempts + 1 < 1 <<< 32) :
    nextAttempt attempts = attempts + 1 :=
  Nat.mod_eq_of_lt room

/-- A connection together with the agenda and the transport that it uses. -/
structure Line (ν : Type) where
  connection : Connection
  agenda : Agenda
  network : ν

namespace Line

variable {ν : Type} [Transport ν]

def withState (line : Line ν) (state : ConnectionState) : Line ν :=
  { line with connection := { line.connection with state } }

/-- Begin an attempt to connect under a new name, with its timeout on the agenda. -/
def connect (line : Line ν) (now : Nat) : Except TransportError Unit × Line ν :=
  let connection := line.connection
  let (client, network) := Transport.mintClient line.network
  match Transport.connect network client connection.target connection.key connection.mailbox with
  | (.error error, network) => (.error error, { line with network })
  | (.ok (), network) =>
      let state := if connection.state.isReconnecting then connection.state else .connecting
      (.ok (),
        { connection := { connection with client := some client, state }
          agenda := line.agenda.once .connectTimeout connection.timeout now
          network })

/-- The next event about the present client. Events about others are thrown away. -/
def nextEvent (line : Line ν) : Option (Envelope Update) × Line ν :=
  let mailbox := line.connection.mailbox
  let waiting := Transport.inbox line.network mailbox
  let stale := waiting.takeWhile fun envelope => line.connection.client != some envelope.client
  let next := waiting[stale.length]?
  let taken := stale.length + (if next.isSome then 1 else 0)
  (next, { line with network := Transport.discard line.network mailbox taken })

/-- The transport has confirmed the connection. Tells whether it was one that had been lost. -/
def confirm (line : Line ν) : Bool × Line ν :=
  (line.connection.state.isReconnecting,
    { line with
      connection := { line.connection with state := .connected, attempts := 0 }
      agenda := line.agenda.cancel .connectTimeout })

/-- Close the present connection, if there is one. -/
def hangUp (line : Line ν) : Line ν :=
  match line.connection.client with
  | none => line
  | some client =>
      { line with
        connection := { line.connection with client := none }
        network := Transport.disconnect line.network client }

/-- The connection was lost: plan an attempt to reconnect, or give up. -/
def lose (line : Line ν) (now : Nat) : LossOutcome × Line ν :=
  let connection := line.connection
  if connection.leaving || line.agenda.has .reconnect || connection.state = .failed then
    (.ignored, line)
  else
    let line := ({ line with agenda := line.agenda.cancel .connectTimeout } : Line ν).hangUp
    let attempts := Connection.nextAttempt connection.attempts
    let maxAttempts := connection.backoff.maxAttempts
    let counted := { line.connection with attempts }
    if attempts > maxAttempts then
      (.exhausted maxAttempts, { line with connection := { counted with state := .failed } })
    else
      let delay := connection.backoff.delay attempts
      (.scheduled attempts delay,
        { line with
          connection := { counted with state := .reconnecting attempts }
          agenda := line.agenda.once .reconnect delay now })

/-- Make the attempt to reconnect that was planned. -/
def redial (line : Line ν) (now : Nat) : RedialOutcome × Line ν :=
  if line.connection.leaving then (.lost .ignored, line)
  else
    match line.connect now with
    | (.ok (), line) => (.dialing, line)
    | (.error _, line) =>
        let (outcome, line) := line.lose now
        (.lost outcome, line)

/-- Send a message over the present connection. -/
def send (line : Line ν) (message : OutboundMessage Update) :
    Except TransportError Unit × Line ν :=
  match line.connection.client with
  | none => (.error .closed, line)
  | some client =>
      let (result, network) := Transport.send line.network client message
      (result, { line with network })

/-- From now on a lost connection is meant to be lost. -/
def beginLeave (line : Line ν) : Line ν :=
  { line with connection := { line.connection with leaving := true } }

/-- Close the connection and throw the waiting events away. -/
def shutDown (line : Line ν) : Line ν :=
  let line := line.beginLeave.hangUp
  let mailbox := line.connection.mailbox
  let waiting := (Transport.inbox line.network mailbox).length
  { line with
    connection := { line.connection with state := .disconnected }
    network := Transport.discard line.network mailbox waiting }

end Line

end Cowrite
