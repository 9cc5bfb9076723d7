import Cowrite.SessionKey

/-!
# Transports

A session either goes through a room of a relay server, which keeps the document and passes
updates on, or it connects peers directly, with the host as the hub.

A session never deals with the network itself. It asks a transport to connect a client to a
target, hands it messages, and finds what comes back in a mailbox. Every attempt to connect goes
under a client name of its own, and every event carries the name of the client that it is about,
so that a session can tell the events of its present connection from stragglers of an earlier
one.

The payloads of messages and events are document updates of some kind `π`.
-/

namespace Cowrite

/-- The kind of network path of a session. -/
inductive TransportMode where
  | relay
  | peerToPeer
  deriving DecidableEq, Repr

def TransportMode.name : TransportMode → String
  | .relay => "relay"
  | .peerToPeer => "p2p"

/-- Where a client connects to. -/
inductive ConnectTarget where
  /-- A room, by its address. -/
  | relay (url : String)
  /-- Wait for peers to connect. -/
  | listen
  /-- Call a waiting peer. -/
  | peer (endpointId relayUrl : String)
  deriving DecidableEq, Repr

def ConnectTarget.mode : ConnectTarget → TransportMode
  | .relay _ => .relay
  | .listen => .peerToPeer
  | .peer _ _ => .peerToPeer

/-- The name of one attempt to connect. -/
structure ClientId where
  text : String
  deriving DecidableEq, Repr

/-- What a session hands to its transport. -/
inductive OutboundMessage (π : Type) where
  /-- Ask the relay for the state of the room. -/
  | syncRequest
  /-- What is new in the document. -/
  | update (payload : π)
  /-- The whole document, for a peer that has just connected to its host. -/
  | fullState (payload : π)
  deriving DecidableEq, Repr

/-- What a transport reports. -/
inductive TransportEvent (π : Type) where
  | connected
  | disconnected
  /-- The relay's answer to a request for the state; empty for a fresh room. -/
  | syncResponse (payload : π)
  | update (payload : π)
  | fullState (payload : π)
  | error (message : String)
  | peerConnected (peer : String)
  | peerDisconnected (peer : String)
  /-- A host that waits for peers can be reached at this address. -/
  | ready (endpointId relayUrl : String)
  deriving DecidableEq, Repr

/-- The payload of a message, if it has one. -/
def OutboundMessage.payload? {π : Type} : OutboundMessage π → Option π
  | .syncRequest => none
  | .update payload => some payload
  | .fullState payload => some payload

/-- A message with its payload replaced. -/
def OutboundMessage.mapM {m : Type → Type} [Monad m] {π ρ : Type} (change : π → m ρ) :
    OutboundMessage π → m (OutboundMessage ρ)
  | .syncRequest => return .syncRequest
  | .update payload => return .update (← change payload)
  | .fullState payload => return .fullState (← change payload)

/-- An event with its payload replaced. -/
def TransportEvent.mapM {m : Type → Type} [Monad m] {π ρ : Type} (change : π → m ρ) :
    TransportEvent π → m (TransportEvent ρ)
  | .connected => return .connected
  | .disconnected => return .disconnected
  | .syncResponse payload => return .syncResponse (← change payload)
  | .update payload => return .update (← change payload)
  | .fullState payload => return .fullState (← change payload)
  | .error message => return .error message
  | .peerConnected peer => return .peerConnected peer
  | .peerDisconnected peer => return .peerDisconnected peer
  | .ready endpointId relayUrl => return .ready endpointId relayUrl

/-- An event, and the client that it is about. -/
structure Envelope (π : Type) where
  client : ClientId
  event : TransportEvent π
  deriving DecidableEq, Repr

/-- What goes wrong in a transport. -/
inductive TransportError where
  | connect (target reason : String)
  | unknownClient (client : ClientId)
  | closed
  | unsupported (mode : TransportMode)
  | cannotEncode
  | crypto (error : CryptoError)
  deriving DecidableEq, Repr

namespace TransportError

def message : TransportError → String
  | .connect target reason => "failed to connect to " ++ target ++ ": " ++ reason
  | .unknownClient client => "unknown client " ++ client.text
  | .closed => "connection closed"
  | .unsupported mode => "transport does not support " ++ mode.name ++ " sessions"
  | .cannotEncode => "failed to encode message"
  | .crypto error => error.message

def code : TransportError → String
  | .connect _ _ => "tandem::transport::connect"
  | .unknownClient _ => "tandem::transport::client"
  | .closed => "tandem::transport::closed"
  | .unsupported _ => "tandem::transport::unsupported"
  | .cannotEncode => "tandem::transport::encode"
  | .crypto _ => "tandem::transport::crypto"

def report (error : TransportError) : Report :=
  { message := error.message, code := some error.code }

end TransportError

end Cowrite
