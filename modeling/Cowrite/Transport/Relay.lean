import Cowrite.Transport.Class

/-!
# A relay within the process

The relay keeps a document for every room. It answers a request for the state with everything
that the document holds, merges the updates that clients send, and passes each on to the other
clients of the room. An update that the document refuses is dropped without a word. While the
relay is offline nobody can connect or send; going offline disconnects everybody, but the
documents of the rooms stay. Keys are accepted and ignored, as nothing leaves the process.
-/

namespace Cowrite

/-- A room of the relay: its document, and who is in it with what mailbox. -/
structure Room where
  url : String
  replica : Replica
  members : List (ClientId × Address) := []
  deriving DecidableEq, Repr

namespace Room

def hasMember (room : Room) (client : ClientId) : Bool :=
  room.members.any (·.1 == client)

def withoutMember (room : Room) (client : ClientId) : Room :=
  { room with members := room.members.filter (·.1 != client) }

end Room

/-- A relay within the process. -/
structure Relay where
  isOnline : Bool := true
  /-- How many client names were made. -/
  minted : Nat := 0
  /-- The rooms, in the order in which they came to be. -/
  rooms : List Room := []
  mail : PostOffice Update := {}
  deriving DecidableEq, Repr

namespace Relay

/-- The room at an address, if there is one. -/
def room? (relay : Relay) (url : String) : Option Room :=
  relay.rooms.find? (·.url == url)

/-- The room that a client is in. -/
def roomOf? (relay : Relay) (client : ClientId) : Option Room :=
  relay.rooms.find? (·.hasMember client)

/-- Put a room in place of the one with its address, or add it. -/
def putRoom (relay : Relay) (room : Room) : Relay :=
  if relay.rooms.any (·.url == room.url) then
    { relay with
      rooms := relay.rooms.map fun other => if other.url = room.url then room else other }
  else { relay with rooms := relay.rooms ++ [room] }

/-- Deliver an event about a client to its mailbox. -/
def deliver (relay : Relay) (member : ClientId × Address) (event : TransportEvent Update) : Relay :=
  { relay with mail := (relay.mail.deliver member.2 ⟨member.1, event⟩).2 }

/-- Deliver an event to several members, to each under its own name. -/
def deliverAll (relay : Relay) (members : List (ClientId × Address))
    (event : TransportEvent Update) : Relay :=
  members.foldl (fun relay member => relay.deliver member event) relay

/-- Make a name for a client. -/
def mintClient (relay : Relay) : ClientId × Relay :=
  let number := relay.minted + 1
  (⟨s!"loopback-{number}"⟩, { relay with minted := number })

/-- Enter a room, which comes to be with its first client. -/
def connect (relay : Relay) (client : ClientId) (target : ConnectTarget) (address : Address) :
    Except TransportError Unit × Relay :=
  match target with
  | .relay url =>
      if relay.isOnline then
        let room := (relay.room? url).getD { url, replica := { id := 0 } }
        let room := room.withoutMember client
        let room := { room with members := room.members ++ [(client, address)] }
        (.ok (), (relay.putRoom room).deliver (client, address) .connected)
      else (.error (.connect url "relay offline"), relay)
  | target => (.error (.unsupported target.mode), relay)

/-- Leave all rooms. -/
def disconnect (relay : Relay) (client : ClientId) : Relay :=
  { relay with rooms := relay.rooms.map (·.withoutMember client) }

/-- Merge an update into the room of its sender, and pass it on to the others there. -/
def merge (relay : Relay) (room : Room) (client : ClientId) (update : Update) : Relay :=
  match room.replica.apply update with
  | .error _ => relay
  | .ok replica =>
      let others := room.members.filter (·.1 != client)
      (relay.putRoom { room with replica := replica.clearWalks }).deliverAll others (.update update)

/-- Take a message of a client. -/
def send (relay : Relay) (client : ClientId) (message : OutboundMessage Update) :
    Except TransportError Unit × Relay :=
  if !relay.isOnline then (.error .closed, relay)
  else
    match relay.roomOf? client with
    | none => (.error (.unknownClient client), relay)
    | some room =>
        match message with
        | .syncRequest =>
            let asking := (room.members.filter (·.1 == client)).take 1
            (.ok (), relay.deliverAll asking (.syncResponse room.replica.fullState))
        | .update update => (.ok (), relay.merge room client update)
        | .fullState update => (.ok (), relay.merge room client update)

/-- Take the relay down or bring it back. -/
def setOnline (relay : Relay) (online : Bool) : Relay :=
  if online then { relay with isOnline := true }
  else
    let members := relay.rooms.flatMap (·.members)
    let emptied := { relay with
      isOnline := false
      rooms := relay.rooms.map fun (room : Room) => { room with members := [] } }
    emptied.deliverAll members .disconnected

/-- The text of a room, if there is one at the address. -/
def roomText? (relay : Relay) (url : String) : Option Text :=
  (relay.room? url).map (·.replica.text)

/-- How many clients are in a room. -/
def clientCount (relay : Relay) (url : String) : Nat :=
  ((relay.room? url).map (·.members.length)).getD 0

instance : Transport Relay where
  mode _ := .relay
  openBox relay :=
    let (address, mail) := relay.mail.openBox
    (address, { relay with mail })
  mintClient := mintClient
  connect relay client target _ address := relay.connect client target address
  disconnect := disconnect
  send := send
  inbox relay := relay.mail.inbox
  discard relay address count := { relay with mail := relay.mail.discard address count }
  closeBox relay address := { relay with mail := relay.mail.closeBox address }

end Relay

end Cowrite
