import Cowrite.Directory
import Cowrite.Session.Desk
import Cowrite.Transport.Relay
import Cowrite.Transport.Scripted

/-!
# Several desks

An office has buffers, transports and participants, all under names. A participant works at a place,
which is a buffer and a transport, and several participants can share a transport: so the members
of one session meet in a relay of the office, each at a desk of its own. A place stays the same when
the name of its buffer or transport is given to another one.

Nothing happens in an office by itself. Whoever runs it changes the buffers as users do, and lets
one participant after the other do something at the present time (`act`).
-/

namespace Cowrite

/-- A transport of an office. -/
inductive Network where
  | relay (handle : Handle)
  | scripted (handle : Handle)
  deriving DecidableEq, Repr

/-- Where a participant works: at a buffer of the office, with a transport. -/
structure Place where
  buffer : Handle
  network : Network
  deriving DecidableEq, Repr

/-- A participant, and the place where it last tried to start a session. -/
structure Seat where
  participant : Participant
  place : Option Place := none
  deriving DecidableEq

/-- Buffers, transports and participants. -/
structure Office where
  buffers : Directory Buffer := {}
  relays : Directory Relay := {}
  scripts : Directory Scripted := {}
  seats : Shelf Seat := []

/-- What can be done at a desk, whatever its transport is. -/
abbrev Deed (α : Type) := {ν : Type} → [Transport ν] → Desk ν → α × Desk ν

namespace Office

def putBuffer (office : Office) (handle : Handle) (buffer : Buffer) : Office :=
  { office with buffers := office.buffers.put handle buffer }

def putRelay (office : Office) (handle : Handle) (relay : Relay) : Office :=
  { office with relays := office.relays.put handle relay }

def putScript (office : Office) (handle : Handle) (script : Scripted) : Office :=
  { office with scripts := office.scripts.put handle script }

def putSeat (office : Office) (name : String) (seat : Seat) : Office :=
  { office with seats := office.seats.put name seat }

/-- How many rooms there are in all relays. -/
def roomCount (office : Office) : Nat :=
  office.relays.things.foldl (fun count relay => count + relay.rooms.length) 0

/-- The transport that a name leads to, where the names of relays are marked as such. -/
def network? (office : Office) (name : String) : Option Network :=
  match name.toList with
  | 'r' :: 'e' :: 'l' :: 'a' :: 'y' :: ':' :: rest =>
      (office.relays.handle? (String.ofList rest)).map .relay
  | _ => (office.scripts.handle? name).map .scripted

/-- The place at the buffer and with the transport that two names lead to. -/
def place? (office : Office) (buffer network : String) : Option Place := do
  return { buffer := ← office.buffers.handle? buffer, network := ← office.network? network }

/-- Let a participant do something at a place. There is no desk where the buffer or the transport
is missing. -/
def actAt {α : Type} (office : Office) (participant : Participant) (place : Place)
    (deed : Deed α) : Option (α × Participant × Office) := do
  let buffer ← office.buffers.get? place.buffer
  match place.network with
  | .relay handle =>
      let network ← office.relays.get? handle
      let (result, desk) := deed ({ toParticipant := participant, buffer, network } : Desk Relay)
      return (result, desk.toParticipant,
        (office.putBuffer place.buffer desk.buffer).putRelay handle desk.network)
  | .scripted handle =>
      let network ← office.scripts.get? handle
      let (result, desk) := deed ({ toParticipant := participant, buffer, network } : Desk Scripted)
      return (result, desk.toParticipant,
        (office.putBuffer place.buffer desk.buffer).putScript handle desk.network)

/-- Let somebody without a place do something: at a desk with an empty buffer and a transport that
goes nowhere. -/
def actNowhere {α : Type} (participant : Participant) (deed : Deed α) : α × Participant :=
  let desk : Desk Scripted :=
    { toParticipant := participant, buffer := Buffer.ofText [], network := { serves := .relay } }
  let (result, desk) := deed desk
  (result, desk.toParticipant)

/-- Let a participant do something at its place. -/
def act {α : Type} (office : Office) (name : String) (deed : Deed α) : Option (α × Office) := do
  let seat ← office.seats.get? name
  match seat.place with
  | none =>
      let (result, participant) := actNowhere seat.participant deed
      return (result, office.putSeat name { seat with participant })
  | some place =>
      let (result, participant, office) ← office.actAt seat.participant place deed
      return (result, office.putSeat name { seat with participant })

/-- Give a seat to a participant. Whoever had it before vanishes from its desk. -/
def reseat (office : Office) (name : String) (participant : Participant) : Office :=
  let office := ((office.act name fun {_} [_] desk => ((), desk.vanish)).map (·.2)).getD office
  office.putSeat name { participant }

/-- Let a participant try to start a session at a place, which becomes its own unless it has a
session at another one already. -/
def start {α : Type} (office : Office) (name : String) (place : Place) (deed : Deed α) :
    Option (α × Office) := do
  let seat ← office.seats.get? name
  let (result, participant, office) ← office.actAt seat.participant place deed
  let kept := if seat.participant.isActive then seat.place else some place
  return (result, office.putSeat name { participant, place := kept })

/-- Let participants poll in turn, and note each status line that is new for its participant. What
was noted before comes newest first. -/
def pollAll (now : Nat) : List String → Office → List (Nat × String × String) →
    Option (List (Nat × String × String) × Office)
  | [], office, noted => some (noted, office)
  | name :: rest, office, noted => do
      let (status, office) ← office.act name fun {_} [_] desk =>
        let desk := desk.poll now
        (desk.statusLine, desk)
      let last := (noted.find? fun note => note.2.1 == name).map (·.2.2)
      pollAll now rest office (if last = some status then noted else (now, name, status) :: noted)

/-- Let participants poll at several times, and tell when the status line of which one changed. -/
def watch (office : Office) (names : List String) (times : List Nat) :
    Option (List (Nat × String × String) × Office) := do
  let (noted, office) ← times.foldlM
    (fun (noted, office) now => pollAll now names office noted) ([], office)
  return (noted.reverse, office)

/-- So many times, one pace apart, and a last one. -/
def timesUpTo : Nat → Nat → Nat → Nat → List Nat
  | 0, _, _, stop => [stop]
  | count + 1, start, pace, stop =>
      if stop ≤ start then [stop] else start :: timesUpTo count (start + pace) pace stop

/-- The times from `start` on, one pace apart, up to `stop`, which is the last of them; just `start`
if it is not before `stop`. -/
def times (start stop pace : Nat) : List Nat :=
  if stop ≤ start then [start] else timesUpTo ((stop - start) / pace + 1) start pace stop

end Office

end Cowrite
