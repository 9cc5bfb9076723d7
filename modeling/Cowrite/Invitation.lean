import Cowrite.SessionKey
import Cowrite.Text.Blank
import Cowrite.Text.Spelling
import Cowrite.Transport.Basic
import Cowrite.Wire.Field

/-!
# Invitations

An invitation has all that somebody needs in order to join a session: the room on a relay server
and the key, if the session is encrypted, or the address of a peer that waits for connections. It
travels as one word of base 64 symbols that a user copies from a chat (`encode`), so reading it
(`decode`) ignores white space around it, and checks that nothing essential is empty.
-/

namespace Cowrite

/-- What somebody needs in order to join a session. -/
inductive Invitation where
  /-- A room of a relay server, with the key of an encrypted session. -/
  | relay (server session : String) (key : Option SessionKey)
  /-- A waiting peer, reached with the help of a relay. -/
  | peer (endpointId relayUrl : String)
  deriving DecidableEq

/-- Why a text is no invitation. -/
inductive InvitationError where
  | empty
  /-- The text is not made of base 64 symbols in the right way. -/
  | badSymbols
  /-- The bytes do not spell an invitation. -/
  | badPayload (error : Wire.DecodeError)
  /-- A part that must not be empty is. -/
  | missingField (name : String)
  deriving DecidableEq, Repr

namespace InvitationError

def message : InvitationError → String
  | .empty => "session code is empty"
  | .badSymbols => "session code is not valid base64url"
  | .badPayload _ => "session code is malformed"
  | .missingField name => "session code names an empty " ++ name

def report (error : InvitationError) : Report :=
  { message := error.message
    code := some "tandem::code"
    help :=
      match error with
      | .badSymbols => some "copy the whole code the host shared, without surrounding quotes"
      | _ => none
    cause :=
      match error with
      | .badPayload error => some error.message
      | _ => none }

end InvitationError

/-- The address of a room: slashes at the end of the server's address do not count. -/
def roomUrl (server session : String) : String :=
  String.ofList ((server.toList.reverse.dropWhile (· == '/')).reverse) ++ "/ws/" ++ session

namespace Invitation

def mode : Invitation → TransportMode
  | .relay _ _ _ => .relay
  | .peer _ _ => .peerToPeer

/-- The key of an encrypted session. -/
def key? : Invitation → Option SessionKey
  | .relay _ _ key => key
  | .peer _ _ => none

/-- Where a guest connects to. -/
def target : Invitation → ConnectTarget
  | .relay server session _ => .relay (roomUrl server session)
  | .peer endpointId relayUrl => .peer endpointId relayUrl

/-- The bytes of an invitation. -/
def payload : Invitation → Bytes
  | .relay server session key =>
      Wire.encodeVariant 0 ++ Wire.encodeText server ++ Wire.encodeText session ++
        Wire.encodeOption SessionKey.bytes key
  | .peer endpointId relayUrl =>
      Wire.encodeVariant 1 ++ Wire.encodeText endpointId ++ Wire.encodeText relayUrl

/-- Read a key. -/
def decodeKey (bytes : Bytes) : Except Wire.DecodeError (SessionKey × Bytes) := do
  let (key, rest) ← Wire.takeBytes 32 bytes
  match SessionKey.ofBytes? key with
  | some key => .ok (key, rest)
  | none => .error .endOfInput

/-- Read the bytes of an invitation. -/
def ofPayload (bytes : Bytes) : Except Wire.DecodeError Invitation := do
  let (variant, rest) ← Wire.decodeVariant bytes
  match variant with
  | 0 =>
      let (server, rest) ← Wire.decodeText rest
      let (session, rest) ← Wire.decodeText rest
      let (key, _) ← Wire.decodeOption decodeKey rest
      return .relay server session key
  | 1 =>
      let (endpointId, rest) ← Wire.decodeText rest
      let (relayUrl, _) ← Wire.decodeText rest
      return .peer endpointId relayUrl
  | _ => throw .unknownVariant

/-- The first essential part that is empty. -/
def missingField? : Invitation → Option String
  | .relay server session _ =>
      if server.isEmpty then some "server" else if session.isEmpty then some "session" else none
  | .peer endpointId _ => if endpointId.isEmpty then some "endpoint id" else none

/-- The word to share. -/
def encode (invitation : Invitation) : String :=
  String.ofList (Base64.encode invitation.payload)

/-- Read a shared word. -/
def decode (code : String) : Except InvitationError Invitation :=
  let symbols := Text.trimmed code.toList
  if symbols.isEmpty then .error .empty
  else
    match Base64.decode symbols with
    | none => .error .badSymbols
    | some bytes =>
        match ofPayload bytes with
        | .error error => .error (.badPayload error)
        | .ok invitation =>
            match invitation.missingField? with
            | some name => .error (.missingField name)
            | none => .ok invitation

end Invitation

end Cowrite
