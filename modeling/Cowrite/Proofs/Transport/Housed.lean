import Cowrite.Proofs.Replica.Grown
import Cowrite.Proofs.Transport.Passing

/-!
# Clients that are in one place

Nothing keeps a client from entering several rooms of a relay, and then the rooms answer in its name
in the order in which they came to be. A client that only ever enters one room is in no other, and
there once (`Relay.Housed`). So the room that is found for it is its own
(`Housed.roomOf?_eq_some_iff`), and what it sends is taken up by that room
(`Housed.send_of_takes`) or changes nothing (`Housed.send_of_not_takes`).
-/

namespace Cowrite

namespace Relay

variable {relay : Relay} {home : ClientId → String} {client sender : ClientId} {address : Address}
  {room : Room} {payload : Update} {replica : Replica}

/-- A new relay over some mailboxes. -/
def fresh (office : PostOffice Update) : Relay :=
  { mail := office }

/-- A relay with one room for every url, in which every client is in its own room if it is in any,
and there once. -/
structure Housed (home : ClientId → String) (relay : Relay) : Prop where
  distinct : (relay.rooms.map (·.url)).Nodup
  once : ∀ room ∈ relay.rooms, (room.members.map (·.1)).Nodup
  own : ∀ room ∈ relay.rooms, ∀ member ∈ room.members, room.url = home member.1
  grown : ∀ room ∈ relay.rooms, room.replica.Grown

theorem housed_fresh (home : ClientId → String) (office : PostOffice Update) :
    (fresh office).Housed home :=
  ⟨List.nodup_nil, List.forall_mem_nil _, List.forall_mem_nil _, List.forall_mem_nil _⟩

theorem Housed.of_rooms_eq {later : Relay} (housed : relay.Housed home)
    (rooms : later.rooms = relay.rooms) : later.Housed home :=
  ⟨by rw [rooms]; exact housed.distinct, by rw [rooms]; exact housed.once,
    by rw [rooms]; exact housed.own, by rw [rooms]; exact housed.grown⟩

theorem Housed.putRoom (housed : relay.Housed home) (once : (room.members.map (·.1)).Nodup)
    (own : ∀ member ∈ room.members, room.url = home member.1) (grown : room.replica.Grown) :
    (relay.putRoom room).Housed home := by
  have either {motive : Room → Prop} (here : motive room)
      (there : ∀ other ∈ relay.rooms, motive other) :
      ∀ other ∈ (relay.putRoom room).rooms, motive other := by
    intro other present
    rcases mem_rooms_putRoom.1 present with rfl | ⟨old, _⟩
    · exact here
    · exact there other old
  exact ⟨distinct_putRoom housed.distinct room, either once housed.once, either own housed.own,
    either grown housed.grown⟩

/-- Rooms that only lose members. -/
theorem Housed.shrink (housed : relay.Housed home) {later : Relay} {change : Room → Room}
    (rooms : later.rooms = relay.rooms.map change) (url : ∀ room, (change room).url = room.url)
    (document : ∀ room, (change room).replica = room.replica)
    (members : ∀ room, (change room).members.Sublist room.members) : later.Housed home := by
  have each {motive : Room → Prop} (kept : ∀ room ∈ relay.rooms, motive (change room)) :
      ∀ room ∈ later.rooms, motive room := by
    rw [rooms]
    exact List.forall_mem_map.2 kept
  refine ⟨?_, each ?_, each ?_, each ?_⟩
  · rw [rooms, List.map_map]
    have same : ((·.url) ∘ change : Room → String) = (·.url) := funext url
    rw [same]
    exact housed.distinct
  · intro room present
    exact (housed.once room present).sublist ((members room).map _)
  · intro room present member isMember
    rw [url]
    exact housed.own room present member ((members room).subset isMember)
  · intro room present
    rw [document]
    exact housed.grown room present

/-- A client that enters its own room is there once, wherever it was told of things before. -/
theorem Housed.entered (housed : relay.Housed home) {url : String} (isHome : url = home client)
    (address : Address) : (relay.putRoom (relay.entered url client address)).Housed home := by
  have found : ∃ room : Room, relay.entered url client address =
        { room.withoutMember client with
          members := (room.withoutMember client).members ++ [(client, address)] } ∧
      room.url = url ∧ (room.members.map (·.1)).Nodup ∧
      (∀ member ∈ room.members, url = home member.1) ∧ room.replica.Grown := by
    cases asked : relay.room? url with
    | none =>
        refine ⟨{ url, replica := { id := 0 } }, ?_, rfl, by simp, by simp, Replica.grown_new 0⟩
        rw [Relay.entered, asked]
        rfl
    | some room =>
        rcases mem_of_room? asked with ⟨present, rfl⟩
        refine ⟨room, ?_, rfl, housed.once room present, housed.own room present,
          housed.grown room present⟩
        rw [Relay.entered, asked]
        rfl
  rcases found with ⟨room, isEntered, rfl, once, own, grown⟩
  rw [isEntered]
  refine housed.putRoom ?_ ?_ grown
  · simp only [Room.withoutMember, List.map_append, List.map_singleton, List.nodup_append]
    refine ⟨once.sublist (List.filter_sublist.map _), by simp, ?_⟩
    intro name stays other isClient same
    rw [List.mem_singleton] at isClient
    rcases List.mem_map.1 stays with ⟨member, kept, rfl⟩
    have differs := (List.mem_filter.1 kept).2
    rw [same, isClient] at differs
    simp at differs
  · intro member isMember
    rcases List.mem_append.1 isMember with stays | isNew
    · exact own member (List.mem_filter.1 stays).1
    · rw [List.mem_singleton.1 isNew]
      exact isHome

/-- A client is in one room. -/
theorem Housed.eq_of_hasMember (housed : relay.Housed home) {other : Room}
    (present : room ∈ relay.rooms) (otherPresent : other ∈ relay.rooms)
    (isMember : room.hasMember client = true) (isOther : other.hasMember client = true) :
    room = other := by
  have place {room : Room} (present : room ∈ relay.rooms)
      (isMember : room.hasMember client = true) : room.url = home client := by
    rw [Room.hasMember, List.any_eq_true] at isMember
    rcases isMember with ⟨member, inRoom, same⟩
    rw [beq_iff_eq] at same
    rw [housed.own room present member inRoom, same]
  exact List.inj_on_of_nodup_map housed.distinct present otherPresent
    ((place present isMember).trans (place otherPresent isOther).symm)

/-- Nobody is anywhere twice. -/
theorem Housed.nodup_seats (housed : relay.Housed home) :
    ((relay.rooms.flatMap (·.members)).map (·.1)).Nodup := by
  rw [List.map_flatMap, List.nodup_flatMap]
  refine ⟨housed.once, ?_⟩
  refine (List.pairwise_map.1 housed.distinct).imp_of_mem ?_
  intro room other present otherPresent differ client isMember isOther
  rcases List.mem_map.1 isMember with ⟨member, inRoom, rfl⟩
  rcases List.mem_map.1 isOther with ⟨another, inOther, same⟩
  apply differ
  rw [housed.own room present member inRoom, housed.own other otherPresent another inOther, same]

theorem hasMember_of_mem (isMember : (client, address) ∈ room.members) :
    room.hasMember client = true :=
  List.any_eq_true.2 ⟨_, isMember, by simp⟩

/-- The room that is found for a client is the one that the client is in. -/
theorem Housed.roomOf?_eq_some_iff (housed : relay.Housed home) :
    relay.roomOf? client = some room ↔ room ∈ relay.rooms ∧ room.hasMember client = true := by
  have right {other : Room} (found : relay.roomOf? client = some other) :
      other ∈ relay.rooms ∧ other.hasMember client = true := by
    have isMember := List.find?_some found
    exact ⟨List.mem_of_find?_eq_some found, isMember⟩
  constructor
  · exact right
  · rintro ⟨present, isMember⟩
    cases found : relay.roomOf? client with
    | none => exact absurd isMember (List.find?_eq_none.1 found room present)
    | some other =>
        rcases right found with ⟨otherPresent, isOther⟩
        rw [housed.eq_of_hasMember present otherPresent isMember isOther]

/-! ## Payloads -/

/-- Whether a payload of a sender is accepted: the room that the sender is in takes it up, which
makes of its document the given one. -/
structure Takes (relay : Relay) (sender : ClientId) (payload : Update) (room : Room)
    (replica : Replica) : Prop where
  online : relay.isOnline = true
  present : room ∈ relay.rooms
  sends : room.hasMember sender = true
  applied : room.replica.apply payload = .ok replica

/-- A payload goes to the room that is found for its sender, if there is one. -/
theorem send_eq_merge (relay : Relay) (sender : ClientId) {message : OutboundMessage Update}
    (carries : message.payload? = some payload) :
    (relay.send sender message).2 =
      if relay.isOnline = true then
        (relay.roomOf? sender).elim relay fun room => relay.merge room sender payload
      else relay := by
  cases message with
  | syncRequest => cases carries
  | update _ =>
      cases carries
      cases online : relay.isOnline <;> cases found : relay.roomOf? sender <;>
        simp [send, online, found]
  | fullState _ =>
      cases carries
      cases online : relay.isOnline <;> cases found : relay.roomOf? sender <;>
        simp [send, online, found]

/-- A payload that the room takes up becomes part of its document, and goes to all others there. -/
theorem Housed.send_of_takes (housed : relay.Housed home) {message : OutboundMessage Update}
    (carries : message.payload? = some payload)
    (takes : relay.Takes sender payload room replica) :
    (relay.send sender message).2 =
      (relay.putRoom { room with replica := replica.clearWalks }).deliverAll
        (room.members.filter (·.1 != sender)) (.update payload) := by
  have found := housed.roomOf?_eq_some_iff.2 ⟨takes.present, takes.sends⟩
  rw [send_eq_merge relay sender carries, if_pos takes.online, found, Option.elim_some, merge,
    takes.applied]

/-- A payload that is not taken up changes nothing. -/
theorem Housed.send_of_not_takes (housed : relay.Housed home) {message : OutboundMessage Update}
    (carries : message.payload? = some payload)
    (refused : ∀ room replica, ¬relay.Takes sender payload room replica) :
    (relay.send sender message).2 = relay := by
  rw [send_eq_merge relay sender carries]
  split
  case isTrue online =>
    cases found : relay.roomOf? sender with
    | none => rfl
    | some room =>
        rcases housed.roomOf?_eq_some_iff.1 found with ⟨present, isMember⟩
        rw [Option.elim_some, merge]
        cases applied : room.replica.apply payload with
        | error _ => rfl
        | ok replica => exact absurd ⟨online, present, isMember, applied⟩ (refused room replica)
  case isFalse => rfl

end Relay

end Cowrite
