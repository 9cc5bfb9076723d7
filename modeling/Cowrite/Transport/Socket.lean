import Cowrite.Token
import Cowrite.Transport.Framing
import Cowrite.Transport.Mailbox

/-!
# Relay servers behind sockets

Every client of a relay server has a socket of its own. A socket is opened by a handshake, which
the server may refuse; then frames go both ways until one of the two sides ends it. What a session
says before the socket is open waits in its queue. `Socket` is the life of one socket, driven by
what the network reports, and `SocketTable` holds the sockets of all clients that have not left.

A server in anonymous mode is shown a token in the address, minted for every connection.
-/

namespace Cowrite

/-- How far a socket is. -/
inductive SocketPhase where
  /-- The handshake has not been answered. -/
  | opening
  | opened
  /-- Nothing goes in or out any more. -/
  | ended
  deriving DecidableEq, Repr

/-- What the network reports about a socket. -/
inductive SocketReport where
  /-- The server has accepted the handshake. -/
  | accepted
  /-- There is no connection, for a reason in words. -/
  | refused (reason : String)
  /-- A frame of bytes. -/
  | frame (bytes : Bytes)
  /-- A frame of some other kind, such as a text or a sign of life. -/
  | otherFrame
  /-- The server has closed the socket. -/
  | closed
  /-- The connection broke, for a reason in words. -/
  | broken (reason : String)
  deriving DecidableEq, Repr

/-- The socket of one client. -/
structure Socket where
  client : ClientId
  /-- The address of the room, with a token if one is shown. -/
  url : String
  key : Option SessionKey
  /-- Where events go. -/
  mailbox : Address
  phase : SocketPhase := .opening
  /-- Messages not yet sent, oldest first. -/
  queue : List (OutboundMessage Bytes) := []
  deriving DecidableEq

namespace Socket

/-- Take a message to be sent, unless the socket has ended. -/
def accept (socket : Socket) (message : OutboundMessage Bytes) : Except TransportError Socket :=
  if socket.phase = .ended then .error .closed
  else .ok { socket with queue := socket.queue ++ [message] }

/-- The next frame to go out, if the socket is open and there is something to say. -/
def nextFrame? (socket : Socket) (nonce : Bytes) : Option (Bytes × Socket) :=
  match socket.phase, socket.queue with
  | .opened, message :: rest =>
      some (Framing.encodeOutbound socket.key nonce message, { socket with queue := rest })
  | _, _ => none

/-- Take note of what the network reports; it may be an event for the session. -/
def hear (socket : Socket) (report : SocketReport) : Option (TransportEvent Bytes) × Socket :=
  let ended := { socket with phase := .ended, queue := [] }
  match socket.phase, report with
  | .opening, .accepted => (some .connected, { socket with phase := .opened })
  | .opening, .refused reason => (some (.error ("connection failed: " ++ reason)), ended)
  | .opened, .frame bytes => (Framing.decodeInbound? socket.key bytes, socket)
  | .opened, .closed => (some .disconnected, ended)
  | .opened, .broken reason => (some (.error ("receive error: " ++ reason)), ended)
  | _, _ => (none, socket)

end Socket

/-- The name for a client that some random number below `2 ^ 128` gives. -/
def ClientId.ofNumber (number : Nat) : ClientId :=
  ⟨Hex.ofNat 32 number⟩

/-- The sockets of a session's clients. -/
structure SocketTable where
  /-- The name under which tokens for anonymous servers are minted, if they are. -/
  anonymousUser : Option String := none
  sockets : List Socket := []
  mail : PostOffice Bytes := {}
  deriving DecidableEq

namespace SocketTable

/-- What is drawn for a new token: the time in nanoseconds, a session number and a secret. -/
structure TokenDraws where
  now : Int
  sessionId : Bytes
  secret : Bytes

def mode (_ : SocketTable) : TransportMode :=
  .relay

/-- The address to connect to, with a token if one is to be shown. -/
def connectUrl (table : SocketTable) (url : String) (draws : TokenDraws) :
    Except TransportError String :=
  match table.anonymousUser with
  | none => .ok url
  | some user =>
      match Token.mint user draws.now draws.sessionId draws.secret with
      | .ok token => .ok (Token.appendTo url token)
      | .error error => .error (.connect url error.report.message)

/-- The socket of a client. -/
def socket? (table : SocketTable) (client : ClientId) : Option Socket :=
  table.sockets.find? (·.client == client)

/-- Begin a socket for a client. An earlier one of the same client is closed. -/
def connect (table : SocketTable) (client : ClientId) (target : ConnectTarget)
    (key : Option SessionKey) (mailbox : Address) (draws : TokenDraws) :
    Except TransportError Unit × SocketTable :=
  match target with
  | .relay url =>
      match table.connectUrl url draws with
      | .error error => (.error error, table)
      | .ok url =>
          let others := table.sockets.filter (·.client != client)
          (.ok (), { table with sockets := others ++ [{ client, url, key, mailbox }] })
  | target => (.error (.unsupported target.mode), table)

/-- Close the socket of a client. -/
def disconnect (table : SocketTable) (client : ClientId) : SocketTable :=
  { table with sockets := table.sockets.filter (·.client != client) }

/-- Put a socket in place of the one of the same client. -/
def putSocket (table : SocketTable) (socket : Socket) : SocketTable :=
  { table with
    sockets := table.sockets.map fun other =>
      if other.client = socket.client then socket else other }

/-- Hand a message to the socket of a client. -/
def send (table : SocketTable) (client : ClientId) (message : OutboundMessage Bytes) :
    Except TransportError Unit × SocketTable :=
  match table.socket? client with
  | none => (.error (.unknownClient client), table)
  | some socket =>
      match socket.accept message with
      | .ok socket => (.ok (), table.putSocket socket)
      | .error error => (.error error, table)

/-- Take note of what the network reports about the socket of a client. What it means to the
session goes to its mailbox. -/
def hear (table : SocketTable) (client : ClientId) (report : SocketReport) : SocketTable :=
  match table.socket? client with
  | none => table
  | some socket =>
      let (event, heard) := socket.hear report
      let table := table.putSocket heard
      match event with
      | none => table
      | some event =>
          { table with mail := (table.mail.deliver socket.mailbox ⟨client, event⟩).2 }

end SocketTable

end Cowrite
