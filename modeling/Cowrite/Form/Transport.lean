import Cowrite.Form.Basic
import Cowrite.Invitation
import Cowrite.Transport.Basic
import Cowrite.Wire.Message

/-!
# Forms of targets, messages and events

What has nothing to it but its kind is the name of the kind, and anything else is a table whose one
entry is named by the kind. Messages of the wire are tables with an entry for their type.
-/

namespace Cowrite

instance : ToValue TransportMode := ⟨fun mode => .text mode.name⟩

instance : OfValue TransportMode where
  ofValue? value :=
    value.toText?.bind fun name =>
      [TransportMode.relay, .peerToPeer].find? fun mode => mode.name == name

instance : ToValue ClientId := ⟨fun client => .text client.text⟩

instance : OfValue ClientId := ⟨fun value => value.toText?.map ClientId.mk⟩

instance : ToValue SessionKey := ⟨fun key => toValue key.bytes⟩

instance : OfValue SessionKey :=
  ⟨fun value => (OfValue.ofValue? (α := Bytes) value).bind SessionKey.ofBytes?⟩

/-- The address of a peer in a table. -/
def peerForm (endpointId relayUrl : String) : Value :=
  .table [("peer",
    .table [("endpoint_id", .text endpointId), ("relay_url", .text relayUrl)])]

/-- The address of a peer. -/
def peerOfForm? (address : Value) : Option (String × String) := do
  return (← address.entryAs? String "endpoint_id", ← address.entryAs? String "relay_url")

instance : ToValue ConnectTarget where
  toValue
    | .relay url => .table [("relay", .text url)]
    | .listen => .text "listen"
    | .peer endpointId relayUrl => peerForm endpointId relayUrl

instance : OfValue ConnectTarget where
  ofValue?
    | .text "listen" => some .listen
    | value => do
        match ← value.toTagged? with
        | ("relay", url) => return .relay (← ofValue? url)
        | ("peer", address) =>
            let (endpointId, relayUrl) ← peerOfForm? address
            return .peer endpointId relayUrl
        | _ => none

instance : ToValue Invitation where
  toValue
    | .relay server session key =>
        .table [("relay",
          .table [("server", .text server), ("session", .text session), ("key", toValue key)])]
    | .peer endpointId relayUrl => peerForm endpointId relayUrl

instance : OfValue Invitation where
  ofValue? value := do
    match ← value.toTagged? with
    | ("relay", room) =>
        return .relay (← room.entryAs? String "server") (← room.entryAs? String "session")
          (← room.entryAs? (Option SessionKey) "key")
    | ("peer", address) =>
        let (endpointId, relayUrl) ← peerOfForm? address
        return .peer endpointId relayUrl
    | _ => none

instance {π : Type} [ToValue π] : ToValue (TransportEvent π) where
  toValue
    | .connected => .text "connected"
    | .disconnected => .text "disconnected"
    | .syncResponse payload => .table [("sync_response", toValue payload)]
    | .update payload => .table [("update", toValue payload)]
    | .fullState payload => .table [("full_state", toValue payload)]
    | .error message => .table [("error_event", .text message)]
    | .peerConnected peer => .table [("peer_connected", .text peer)]
    | .peerDisconnected peer => .table [("peer_disconnected", .text peer)]
    | .ready endpointId relayUrl => .table [("ready", toValue [endpointId, relayUrl])]

instance {π : Type} [OfValue π] : OfValue (TransportEvent π) where
  ofValue?
    | .text "connected" => some .connected
    | .text "disconnected" => some .disconnected
    | value => do
        match ← value.toTagged? with
        | ("sync_response", payload) => return .syncResponse (← ofValue? payload)
        | ("update", payload) => return .update (← ofValue? payload)
        | ("full_state", payload) => return .fullState (← ofValue? payload)
        | ("error_event", message) => return .error (← ofValue? message)
        | ("peer_connected", peer) => return .peerConnected (← ofValue? peer)
        | ("peer_disconnected", peer) => return .peerDisconnected (← ofValue? peer)
        | ("ready", address) =>
            let [endpointId, relayUrl] ← OfValue.ofValue? (α := List String) address | none
            return .ready endpointId relayUrl
        | _ => none

instance {π : Type} [ToValue π] : ToValue (Envelope π) where
  toValue envelope := .list [toValue envelope.client, toValue envelope.event]

instance {π : Type} [OfValue π] : OfValue (OutboundMessage π) where
  ofValue?
    | .text "sync_request" => some .syncRequest
    | value => do
        match ← value.toTagged? with
        | ("update", payload) => return .update (← ofValue? payload)
        | ("full_state", payload) => return .fullState (← ofValue? payload)
        | _ => none

/-- A message of the wire that carries bytes, in a table. -/
def dataForm (type : String) (data : Bytes) : Value :=
  .table [("type", .text type), ("data", toValue data)]

instance : ToValue Wire.ClientMessage where
  toValue
    | .syncRequest => .table [("type", .text "sync_request")]
    | .update data => dataForm "update" data
    | .encryptedUpdate data => dataForm "encrypted_update" data

instance : OfValue Wire.ClientMessage where
  ofValue? value := do
    match ← value.entryAs? String "type" with
    | "sync_request" => return .syncRequest
    | "update" => return .update (← value.entryAs? Bytes "data")
    | "encrypted_update" => return .encryptedUpdate (← value.entryAs? Bytes "data")
    | _ => none

instance : ToValue Wire.ServerMessage where
  toValue
    | .syncResponse data => dataForm "sync_response" data
    | .update data => dataForm "update" data
    | .encryptedUpdate data => dataForm "encrypted_update" data
    | .error code message =>
        .table [("type", .text "error"), ("code", .text code), ("message", .text message)]

instance : OfValue Wire.ServerMessage where
  ofValue? value := do
    match ← value.entryAs? String "type" with
    | "sync_response" => return .syncResponse (← value.entryAs? Bytes "data")
    | "update" => return .update (← value.entryAs? Bytes "data")
    | "encrypted_update" => return .encryptedUpdate (← value.entryAs? Bytes "data")
    | "error" =>
        return .error (← value.entryAs? String "code") (← value.entryAs? String "message")
    | _ => none

end Cowrite
