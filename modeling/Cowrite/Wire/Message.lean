import Cowrite.Wire.Field

/-!
# Messages between a client and its relay server

A client asks for the state of its room and sends updates of the document; the server answers
with the state, passes on the updates of others and reports failures. Updates travel either plain
or sealed under a session key that the server does not know.

A message is written as the number of its kind, in the order of the constructors below, followed
by its fields. What follows a message in the same bytes is ignored.
-/

namespace Cowrite.Wire

/-- What a client says. -/
inductive ClientMessage where
  /-- Ask for the room's state. -/
  | syncRequest
  /-- A plain update, for the server to merge and pass on. -/
  | update (data : Bytes)
  /-- A sealed update, for the server to keep and pass on. -/
  | encryptedUpdate (data : Bytes)
  deriving DecidableEq, Repr

/-- What a relay server says. -/
inductive ServerMessage where
  /-- The room's state; empty for a fresh room. -/
  | syncResponse (data : Bytes)
  /-- A plain update of another client. -/
  | update (data : Bytes)
  /-- A sealed update of another client. -/
  | encryptedUpdate (data : Bytes)
  /-- Something failed on the server's side. -/
  | error (code message : String)
  deriving DecidableEq, Repr

namespace ClientMessage

def encode : ClientMessage → Bytes
  | .syncRequest => encodeVariant 0
  | .update data => encodeVariant 1 ++ encodeBytes data
  | .encryptedUpdate data => encodeVariant 2 ++ encodeBytes data

def decode (bytes : Bytes) : Except DecodeError ClientMessage := do
  let (variant, rest) ← decodeVariant bytes
  match variant with
  | 0 => return .syncRequest
  | 1 => return .update (← decodeBytes rest).1
  | 2 => return .encryptedUpdate (← decodeBytes rest).1
  | _ => throw .unknownVariant

end ClientMessage

namespace ServerMessage

def encode : ServerMessage → Bytes
  | .syncResponse data => encodeVariant 0 ++ encodeBytes data
  | .update data => encodeVariant 1 ++ encodeBytes data
  | .encryptedUpdate data => encodeVariant 2 ++ encodeBytes data
  | .error code message => encodeVariant 3 ++ encodeText code ++ encodeText message

def decode (bytes : Bytes) : Except DecodeError ServerMessage := do
  let (variant, rest) ← decodeVariant bytes
  match variant with
  | 0 => return .syncResponse (← decodeBytes rest).1
  | 1 => return .update (← decodeBytes rest).1
  | 2 => return .encryptedUpdate (← decodeBytes rest).1
  | 3 =>
      let (code, rest) ← decodeText rest
      let (message, _) ← decodeText rest
      return .error code message
  | _ => throw .unknownVariant

end ServerMessage

end Cowrite.Wire
