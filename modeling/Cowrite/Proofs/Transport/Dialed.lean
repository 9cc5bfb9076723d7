import Cowrite.Transport.Class

/-!
# Transports that count dials

Any transport can be made to count how often it was asked to connect (`Dialed`), whether it began to
or not. The count is for the reader only: the transport does and answers what it did and answered
without it.
-/

namespace Cowrite

/-- A transport, and how often it was asked to connect. -/
structure Dialed (ν : Type) where
  transport : ν
  dials : Nat := 0

namespace Dialed

variable {ν : Type} [Transport ν]

instance : Transport (Dialed ν) where
  mode network := Transport.mode network.transport
  openBox network :=
    let (address, transport) := Transport.openBox network.transport
    (address, { network with transport })
  mintClient network :=
    let (client, transport) := Transport.mintClient network.transport
    (client, { network with transport })
  connect network client target key address :=
    let (result, transport) := Transport.connect network.transport client target key address
    (result, { transport, dials := network.dials + 1 })
  disconnect network client :=
    { network with transport := Transport.disconnect network.transport client }
  send network client message :=
    let (result, transport) := Transport.send network.transport client message
    (result, { network with transport })
  inbox network := Transport.inbox network.transport
  discard network address count :=
    { network with transport := Transport.discard network.transport address count }
  closeBox network address :=
    { network with transport := Transport.closeBox network.transport address }

end Dialed

end Cowrite
