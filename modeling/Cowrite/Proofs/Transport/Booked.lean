import Cowrite.Transport.Class

/-!
# Transports that keep a book

Any transport can be made to keep a book of the connections that it began and of those that it was
told to close (`Booked`). The book is for the reader only: the transport does and answers what it
did and answered without it.
-/

namespace Cowrite

/-- A line of the book. -/
inductive Entry where
  | opened (client : ClientId)
  | closed (client : ClientId)
  deriving DecidableEq

/-- The book of connections that were all closed, each once and before the next one was opened. -/
def settled (past : List ClientId) : List Entry :=
  past.flatMap fun client => [.opened client, .closed client]

theorem settled_concat (past : List ClientId) (client : ClientId) :
    settled (past ++ [client]) = settled past ++ [.opened client] ++ [.closed client] := by
  simp [settled]

/-- A transport, and its book. -/
structure Booked (ν : Type) where
  transport : ν
  book : List Entry := []

namespace Booked

variable {ν : Type} [Transport ν]

def connect (network : Booked ν) (client : ClientId) (target : ConnectTarget)
    (key : Option SessionKey) (address : Address) : Except TransportError Unit × Booked ν :=
  match Transport.connect network.transport client target key address with
  | (.ok (), transport) => (.ok (), { transport, book := network.book ++ [.opened client] })
  | (.error error, transport) => (.error error, { network with transport })

instance : Transport (Booked ν) where
  mode network := Transport.mode network.transport
  openBox network :=
    let (address, transport) := Transport.openBox network.transport
    (address, { network with transport })
  mintClient network :=
    let (client, transport) := Transport.mintClient network.transport
    (client, { network with transport })
  connect := connect
  disconnect network client :=
    { transport := Transport.disconnect network.transport client
      book := network.book ++ [.closed client] }
  send network client message :=
    let (result, transport) := Transport.send network.transport client message
    (result, { network with transport })
  inbox network := Transport.inbox network.transport
  discard network address count :=
    { network with transport := Transport.discard network.transport address count }
  closeBox network address :=
    { network with transport := Transport.closeBox network.transport address }

/-- A connection is booked if it begins. -/
theorem book_connect (network : Booked ν) (client : ClientId) (target : ConnectTarget)
    (key : Option SessionKey) (address : Address) :
    (Transport.connect network client target key address).2.book =
      match (Transport.connect network client target key address).1 with
      | .ok () => network.book ++ [.opened client]
      | .error _ => network.book := by
  show (connect network client target key address).2.book =
    match (connect network client target key address).1 with
    | .ok () => network.book ++ [.opened client]
    | .error _ => network.book
  rw [connect]
  rcases Transport.connect network.transport client target key address with ⟨result, transport⟩
  cases result with
  | ok done => rfl
  | error error => rfl

end Booked

end Cowrite
