import Cowrite.Transport.Class

/-!
# Transports that record what they accept

Any transport can be made to keep a record of the messages that it has accepted (`Recorded`). The
record is for the reader only: the transport does and answers what it did and answered without it.
-/

namespace Cowrite

/-- A transport, and the messages that it has accepted, oldest first. -/
structure Recorded (ν : Type) where
  transport : ν
  accepted : List (OutboundMessage Update) := []

namespace Recorded

variable {ν : Type}

/-- The payloads that were accepted, oldest first. -/
def payloads (network : Recorded ν) : List Update :=
  network.accepted.filterMap OutboundMessage.payload?

variable [Transport ν]

def send (network : Recorded ν) (client : ClientId) (message : OutboundMessage Update) :
    Except TransportError Unit × Recorded ν :=
  match Transport.send network.transport client message with
  | (.ok (), transport) =>
      (.ok (), { transport, accepted := network.accepted ++ [message] })
  | (.error error, transport) => (.error error, { network with transport })

instance : Transport (Recorded ν) where
  mode network := Transport.mode network.transport
  openBox network :=
    let (address, transport) := Transport.openBox network.transport
    (address, { network with transport })
  mintClient network :=
    let (client, transport) := Transport.mintClient network.transport
    (client, { network with transport })
  connect network client target key address :=
    let (result, transport) := Transport.connect network.transport client target key address
    (result, { network with transport })
  disconnect network client :=
    { network with transport := Transport.disconnect network.transport client }
  send := send
  inbox network := Transport.inbox network.transport
  discard network address count :=
    { network with transport := Transport.discard network.transport address count }
  closeBox network address :=
    { network with transport := Transport.closeBox network.transport address }

/-- A message is recorded if it is accepted. -/
theorem send_cases (network : Recorded ν) (client : ClientId) (message : OutboundMessage Update) :
    (∃ transport, Transport.send network client message =
        (.ok (), { transport, accepted := network.accepted ++ [message] })) ∨
      ∃ error transport, Transport.send network client message =
        (.error error, { network with transport }) := by
  show (∃ transport, send network client message = _) ∨
    ∃ error transport, send network client message = _
  rw [send]
  split
  · exact .inl ⟨_, rfl⟩
  · exact .inr ⟨_, _, rfl⟩

end Recorded

end Cowrite
