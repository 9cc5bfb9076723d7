import Cowrite.Transport.Class

/-!
# A scripted transport

This transport connects to nothing. It records what a session asks of it, and delivers exactly
the events that a script tells it to (`emit`), in any order, on the present connection or on an
earlier one. The script can also make it refuse connections and messages. Any environment that a
session can find itself in is such a script.

Everything that is sent or emitted is also shown to a replica that only listens, so that a script
can ask what somebody would have who received it all. What is emitted without a connection reaches
the listener alone.
-/

namespace Cowrite

/-- A message that was sent, and the text of the listener after it. -/
structure SentMessage where
  client : ClientId
  message : OutboundMessage Update
  heard : Text
  deriving DecidableEq, Repr

/-- A transport that follows a script. -/
structure Scripted where
  serves : TransportMode
  refusesConnections : Bool := false
  refusesMessages : Bool := false
  /-- How many client names were made. -/
  minted : Nat := 0
  /-- The attempts to connect, refused ones included: who, where to, and whether with a key. -/
  attempts : List (ClientId × ConnectTarget × Bool) := []
  /-- The connections that were accepted, with their mailboxes. -/
  accepted : List (ClientId × Address) := []
  /-- The connections that the session closed. -/
  closed : List ClientId := []
  sent : List SentMessage := []
  /-- How many of the sent messages were looked at. -/
  seen : Nat := 0
  listener : Replica := { id := 0 }
  mail : PostOffice Update := {}
  deriving DecidableEq, Repr

namespace Scripted

/-- Let the listener take up an update, if it can. -/
def overhear (scripted : Scripted) (update : Update) : Scripted :=
  match scripted.listener.apply update with
  | .ok listener => { scripted with listener := listener.clearWalks }
  | .error _ => scripted

/-- Let the listener take up what a message carries. -/
def overhearMessage (scripted : Scripted) : OutboundMessage Update → Scripted
  | .syncRequest => scripted
  | .update update => scripted.overhear update
  | .fullState update => scripted.overhear update

/-- Let the listener take up what an event carries. -/
def overhearEvent (scripted : Scripted) : TransportEvent Update → Scripted
  | .syncResponse update => scripted.overhear update
  | .update update => scripted.overhear update
  | .fullState update => scripted.overhear update
  | _ => scripted

def connect (scripted : Scripted) (client : ClientId) (target : ConnectTarget)
    (key : Option SessionKey) (address : Address) : Except TransportError Unit × Scripted :=
  let noted := { scripted with attempts := scripted.attempts ++ [(client, target, key.isSome)] }
  if scripted.refusesConnections then (.error (.connect "mock" "refused"), noted)
  else (.ok (), { noted with accepted := scripted.accepted ++ [(client, address)] })

def send (scripted : Scripted) (client : ClientId) (message : OutboundMessage Update) :
    Except TransportError Unit × Scripted :=
  if scripted.refusesMessages then (.error .closed, scripted)
  else
    let scripted := scripted.overhearMessage message
    let sent := scripted.sent ++ [⟨client, message, scripted.listener.text⟩]
    (.ok (), { scripted with sent })

/-- The accepted connection of a number, counted from 1; without a number, the newest. -/
def connection? (scripted : Scripted) : Option Nat → Option (ClientId × Address)
  | none => scripted.accepted.getLast?
  | some 0 => none
  | some (index + 1) => scripted.accepted[index]?

/-- Deliver an event on the connection of a number, and tell whether there still is a receiver;
`none` if there is no such connection. The listener hears of the event in any case. -/
def emit (scripted : Scripted) (number : Option Nat) (event : TransportEvent Update) :
    Option Bool × Scripted :=
  let scripted := scripted.overhearEvent event
  match scripted.connection? number with
  | none => (none, scripted)
  | some (client, address) =>
      let (received, mail) := scripted.mail.deliver address ⟨client, event⟩
      (some received, { scripted with mail })

/-- The messages sent since the last look at them. -/
def look (scripted : Scripted) : List SentMessage × Scripted :=
  (scripted.sent.drop scripted.seen, { scripted with seen := scripted.sent.length })

instance : Transport Scripted where
  mode scripted := scripted.serves
  openBox scripted :=
    let (address, mail) := scripted.mail.openBox
    (address, { scripted with mail })
  mintClient scripted :=
    let number := scripted.minted + 1
    (⟨s!"mock-{number}"⟩, { scripted with minted := number })
  connect := connect
  disconnect scripted client := { scripted with closed := scripted.closed ++ [client] }
  send := send
  inbox scripted := scripted.mail.inbox
  discard scripted address count := { scripted with mail := scripted.mail.discard address count }
  closeBox scripted address := { scripted with mail := scripted.mail.closeBox address }

end Scripted

end Cowrite
