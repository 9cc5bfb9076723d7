import Cowrite.Transport.Basic
import Cowrite.Wire.Message

/-!
# Updates on their way through a relay server

Between a session and a relay server, messages become frames, one message each. Under a session
key, updates are sealed before they leave (`outbound`) and opened as they arrive (`inbound?`), so
that the server only ever keeps sealed bytes. A frame that is no message, or that does not open,
is no event at all: it is dropped, as there is nothing that a session could do about it.
-/

namespace Cowrite

namespace Framing

/-- A document update as a message: sealed under the key, if there is one. -/
def updateMessage (key : Option SessionKey) (nonce payload : Bytes) : Wire.ClientMessage :=
  match key with
  | some key => .encryptedUpdate (key.sealText nonce payload)
  | none => .update payload

/-- What is said to the server. Each message needs a nonce of its own. -/
def outbound (key : Option SessionKey) (nonce : Bytes) :
    OutboundMessage Bytes → Wire.ClientMessage
  | .syncRequest => .syncRequest
  | .update payload => updateMessage key nonce payload
  | .fullState payload => updateMessage key nonce payload

/-- What a message of the server means to a session. -/
def inbound? (key : Option SessionKey) : Wire.ServerMessage → Option (TransportEvent Bytes)
  | .syncResponse state => some (.syncResponse state)
  | .update payload => some (.update payload)
  | .encryptedUpdate sealed =>
      match key with
      | none => none
      | some key =>
          match key.openText sealed with
          | .ok payload => some (.update payload)
          | .error _ => none
  | .error code message => some (.error (code ++ ": " ++ message))

/-- The frame for a message of a session. -/
def encodeOutbound (key : Option SessionKey) (nonce : Bytes) (message : OutboundMessage Bytes) :
    Bytes :=
  (outbound key nonce message).encode

/-- What a frame of the server means to a session. -/
def decodeInbound? (key : Option SessionKey) (frame : Bytes) : Option (TransportEvent Bytes) :=
  match Wire.ServerMessage.decode frame with
  | .ok message => inbound? key message
  | .error _ => none

end Framing

end Cowrite
