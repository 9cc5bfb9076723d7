import Cowrite.Transport.Basic

/-!
# Mailboxes

Events wait in the mailbox of a session until it takes them out, first in, first out. When the
session is over the mailbox is closed, and what is delivered after that is lost, which the sender
is told. A `PostOffice` is the row of all mailboxes that a transport has opened; an address is a
place in that row.
-/

namespace Cowrite

/-- The events that wait for one receiver. -/
structure Mailbox (π : Type) where
  queue : List (Envelope π) := []
  isOpen : Bool := true
  deriving DecidableEq, Repr

namespace Mailbox

variable {π : Type}

/-- Deliver an event, and tell whether there still is a receiver. -/
def deliver (mailbox : Mailbox π) (envelope : Envelope π) : Bool × Mailbox π :=
  if mailbox.isOpen then (true, { mailbox with queue := mailbox.queue ++ [envelope] })
  else (false, mailbox)

/-- Take the oldest event out. -/
def take (mailbox : Mailbox π) : Option (Envelope π) × Mailbox π :=
  (mailbox.queue.head?, { mailbox with queue := mailbox.queue.tail })

/-- Take so many of the oldest events out. -/
def discard (mailbox : Mailbox π) (count : Nat) : Mailbox π :=
  { mailbox with queue := mailbox.queue.drop count }

/-- Throw the waiting events away and accept no more. -/
def close (_ : Mailbox π) : Mailbox π :=
  { queue := [], isOpen := false }

end Mailbox

/-- The number of a mailbox. -/
abbrev Address := Nat

/-- The mailboxes of a transport. -/
structure PostOffice (π : Type) where
  boxes : List (Mailbox π) := []
  deriving DecidableEq, Repr

namespace PostOffice

variable {π : Type}

/-- Open a new mailbox. -/
def openBox (office : PostOffice π) : Address × PostOffice π :=
  (office.boxes.length, { boxes := office.boxes ++ [{}] })

/-- The mailbox at an address; there is a closed one where none was opened. -/
def box (office : PostOffice π) (address : Address) : Mailbox π :=
  office.boxes.getD address { isOpen := false }

/-- The events that wait at an address. -/
def inbox (office : PostOffice π) (address : Address) : List (Envelope π) :=
  (office.box address).queue

/-- Change the mailbox at an address. -/
def update (office : PostOffice π) (address : Address) (change : Mailbox π → Mailbox π) :
    PostOffice π :=
  { boxes := office.boxes.modify address change }

/-- Deliver an event to an address, and tell whether there still is a receiver. -/
def deliver (office : PostOffice π) (address : Address) (envelope : Envelope π) :
    Bool × PostOffice π :=
  ((office.box address).isOpen, office.update address fun box => (box.deliver envelope).2)

/-- Take so many of the oldest events out. -/
def discard (office : PostOffice π) (address : Address) (count : Nat) : PostOffice π :=
  office.update address fun box => box.discard count

/-- Close a mailbox. -/
def closeBox (office : PostOffice π) (address : Address) : PostOffice π :=
  office.update address Mailbox.close

end PostOffice

end Cowrite
