import Cowrite.Replica.Basic
import Cowrite.Transport.Mailbox

/-!
# What a session asks of a transport

A transport is a value of some type `ν`, and everything that a session does to it gives the next
value. Nothing is assumed about what a transport answers: it may refuse connections and messages
as it likes, and it may put any events into mailboxes at any time.
-/

namespace Cowrite

/-- A network path for the updates of a document. -/
class Transport (ν : Type) where
  /-- The kind of sessions that the transport serves. -/
  mode : ν → TransportMode
  /-- Open a mailbox for a session. -/
  openBox : ν → Address × ν
  /-- Make a name for a new attempt to connect. -/
  mintClient : ν → ClientId × ν
  /-- Begin to connect; `connected`, or `ready` for a host that waits for peers, follows in the
  mailbox. An error means that the attempt never began. -/
  connect : ν → ClientId → ConnectTarget → Option SessionKey → Address →
    Except TransportError Unit × ν
  /-- Close a connection. Unknown names are ignored. -/
  disconnect : ν → ClientId → ν
  /-- Hand a message to an open connection. -/
  send : ν → ClientId → OutboundMessage Update → Except TransportError Unit × ν
  /-- The events that wait in a mailbox, oldest first. -/
  inbox : ν → Address → List (Envelope Update)
  /-- Take so many of the oldest events out of a mailbox. -/
  discard : ν → Address → Nat → ν
  /-- Close a mailbox. -/
  closeBox : ν → Address → ν

end Cowrite
