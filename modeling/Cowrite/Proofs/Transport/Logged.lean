import Cowrite.Transport.Class

/-!
# Transports that log what is asked of them

Any transport can be made to log the names that it makes, and whatever it is asked to do under
those names (`Logged`). The log is for the reader only: the transport does and answers what it did
and answered without it.
-/

namespace Cowrite

/-- What is asked of a transport. -/
inductive Request where
  /-- A name, which was made. -/
  | name (client : ClientId)
  | connect (client : ClientId) (target : ConnectTarget) (key : Option SessionKey)
      (address : Address)
  | disconnect (client : ClientId)
  | send (client : ClientId) (message : OutboundMessage Update)

/-- The name that was made. -/
def Request.minted? : Request → Option ClientId
  | .name client => some client
  | _ => none

/-- A transport, and all that was asked of it, oldest first. -/
structure Logged (ν : Type) where
  transport : ν
  requests : List Request := []

namespace Logged

variable {ν : Type}

/-- The names that were made, oldest first. -/
def minted (network : Logged ν) : List ClientId :=
  network.requests.filterMap Request.minted?

variable [Transport ν]

instance : Transport (Logged ν) where
  mode network := Transport.mode network.transport
  openBox network :=
    let (address, transport) := Transport.openBox network.transport
    (address, { network with transport })
  mintClient network :=
    let (client, transport) := Transport.mintClient network.transport
    (client, { transport, requests := network.requests ++ [.name client] })
  connect network client target key address :=
    let (result, transport) := Transport.connect network.transport client target key address
    (result, { transport, requests := network.requests ++ [.connect client target key address] })
  disconnect network client :=
    { transport := Transport.disconnect network.transport client
      requests := network.requests ++ [.disconnect client] }
  send network client message :=
    let (result, transport) := Transport.send network.transport client message
    (result, { transport, requests := network.requests ++ [.send client message] })
  inbox network := Transport.inbox network.transport
  discard network address count :=
    { network with transport := Transport.discard network.transport address count }
  closeBox network address :=
    { network with transport := Transport.closeBox network.transport address }

end Logged

end Cowrite
