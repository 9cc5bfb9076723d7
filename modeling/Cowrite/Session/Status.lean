import Cowrite.Session.Connection

/-!
# What a user is told about a session

A status line shows where the session stands at any time, notices tell what has happened, and an
overview (`Info`) has all that a user interface may want to show.
-/

namespace Cowrite

/-- The part that somebody plays in a session. -/
inductive Role where
  /-- Started it and shared the buffer's content. -/
  | host
  /-- Joined it. -/
  | joiner
  deriving DecidableEq, Repr

def Role.name : Role → String
  | .host => "host"
  | .joiner => "joiner"

/-- The status line for a connection that may be tried again so many times. -/
def ConnectionState.label (state : ConnectionState) (maxAttempts : Nat) : String :=
  match state with
  | .disconnected => "disconnected"
  | .failed => "disconnected"
  | .connecting => "connecting"
  | .connected => "connected"
  | .syncing => "connected"
  | .synced => "synced"
  | .reconnecting attempt => s!"reconnecting {attempt}/{maxAttempts}"

/-- Something that happened. -/
inductive Notice where
  /-- A session began; a host of a relay session has an invitation to share. -/
  | started (role : Role) (code : Option String)
  /-- A host that waits for peers has an invitation to share. -/
  | codeReady (code : String)
  | synced
  | peerJoined (peer : String)
  | peerLeft (peer : String)
  /-- The connection was lost; an attempt to reconnect follows after so many milliseconds. -/
  | reconnecting (attempt maxAttempts delay : Nat)
  | reconnected
  /-- The session was empty, and the guest's own buffer was shared. -/
  | seededFromBuffer
  /-- All attempts to reconnect have failed. -/
  | failed (attempts : Nat)
  /-- The buffer was closed, and the session ended with it. -/
  | bufferClosed
  | left
  deriving DecidableEq, Repr

def Notice.text : Notice → String
  | .started role none => "Session started as " ++ role.name
  | .started role (some code) =>
      "Session started as " ++ role.name ++ ". Share this code: " ++ code
  | .codeReady code => "Session ready. Share this code: " ++ code
  | .synced => "Document synced"
  | .peerJoined peer => "Peer " ++ peer ++ " joined"
  | .peerLeft peer => "Peer " ++ peer ++ " left"
  | .reconnecting attempt maxAttempts delay =>
      s!"Connection lost, reconnecting in {delay}ms ({attempt}/{maxAttempts})"
  | .reconnected => "Reconnected"
  | .seededFromBuffer => "Session was empty; shared the local buffer"
  | .failed attempts =>
      s!"Connection lost after {attempts} reconnect attempts. Join again to continue"
  | .bufferClosed => "Buffer closed; left the session"
  | .left => "Left the session"

/-- Whole milliseconds in so many microseconds. -/
def millisecondsOf (microseconds : Nat) : Nat :=
  microseconds / 1000

/-- An overview of a session, or of there being none. -/
structure Info where
  active : Bool := false
  role : Option Role := none
  mode : Option TransportMode := none
  state : Option ConnectionState := none
  status : String := ""
  code : Option String := none
  documentId : Option String := none
  client : Option ClientId := none
  peers : List String := []
  reconnectAttempt : Nat := 0
  maxReconnectAttempts : Nat := 0
  pendingUpdate : Bool := false
  deferredUpdate : Bool := false
  startedAt : Option Nat := none
  deriving DecidableEq, Repr

end Cowrite
