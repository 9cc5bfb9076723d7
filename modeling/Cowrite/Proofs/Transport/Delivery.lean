import Cowrite.Proofs.Transport.Housed
import Cowrite.Proofs.Transport.Modest

/-!
# What a relay owes its clients

At every call a relay owes each client at most one event (`Relay.Owes`): the confirmation to who
enters a room, an update that a room takes up to all others there, the state to who asks for it, and
word of an outage to everybody who is in a room. As long as each client connects to one room, every
client hears exactly what it is owed, in the order of the calls (`Relay.serves_after`).

The reason is that nobody is in two places (`Relay.Housed`): an event goes to a list of members, and
the mailbox of a member gets it as often as the member is in that list.
-/

namespace Cowrite

namespace Relay

variable {relay : Relay} {home : ClientId → String} {client sender : ClientId} {address : Address}
  {room : Room} {payload : Update} {replica : Replica}

/-! ## Calls -/

/-- Something that is asked of a relay. -/
inductive Move where
  | connect (client : ClientId) (target : ConnectTarget) (address : Address)
  | disconnect (client : ClientId)
  | send (client : ClientId) (message : OutboundMessage Update)
  | setOnline (online : Bool)

/-- What becomes of a relay. -/
def Move.apply (relay : Relay) : Move → Relay
  | .connect client target address => (relay.connect client target address).2
  | .disconnect client => relay.disconnect client
  | .send client message => (relay.send client message).2
  | .setOnline online => relay.setOnline online

/-- What becomes of a relay when one thing after the other is asked of it. -/
def run (relay : Relay) (moves : List Move) : Relay :=
  moves.foldl Move.apply relay

/-- Whether every client that enters a room enters its own. Attempts that the relay refuses because
it is offline do not count. -/
def KeepsTo (home : ClientId → String) (relay : Relay) (moves : List Move) : Prop :=
  ∀ earlier client url address later,
    moves = earlier ++ .connect client (.relay url) address :: later →
      (relay.run earlier).isOnline = true → url = home client

/-- Whether each client connects to one room only, in calls to a new relay. -/
def OneRoomEach (office : PostOffice Update) (moves : List Move) : Prop :=
  ∃ home, (fresh office).KeepsTo home moves

/-! ## What is owed -/

/-- What a call has a relay tell a client in the mailbox at an address. -/
inductive Owes (relay : Relay) :
    Move → ClientId → Address → TransportEvent Update → Prop where
  | connected {client : ClientId} {url : String} {address : Address}
      (online : relay.isOnline = true) :
      Owes relay (.connect client (.relay url) address) client address .connected
  /-- An update goes to the others in the room. -/
  | update {sender client : ClientId} {message : OutboundMessage Update} {payload : Update}
      {room : Room} {replica : Replica} {address : Address}
      (carries : message.payload? = some payload)
      (takes : relay.Takes sender payload room replica)
      (isMember : (client, address) ∈ room.members) (other : client ≠ sender) :
      Owes relay (.send sender message) client address (.update payload)
  /-- The state goes to who asks for it. -/
  | syncResponse {client : ClientId} {room : Room} {address : Address}
      (online : relay.isOnline = true) (present : room ∈ relay.rooms)
      (isMember : (client, address) ∈ room.members) :
      Owes relay (.send client .syncRequest) client address
        (.syncResponse room.replica.fullState)
  /-- An outage is told to everybody. -/
  | disconnected {client : ClientId} {room : Room} {address : Address}
      (present : room ∈ relay.rooms) (isMember : (client, address) ∈ room.members) :
      Owes relay (.setOnline false) client address .disconnected

/-- The events about a client in the mailbox at an address. -/
def heard (relay : Relay) (client : ClientId) (address : Address) :
    List (TransportEvent Update) :=
  eventsOf client (relay.mail.inbox address)

/-- What a client is owed, at an address, by one call after the other. -/
inductive Hears (client : ClientId) (address : Address) :
    Relay → List Move → List (TransportEvent Update) → Prop where
  | nil (relay : Relay) : Hears client address relay [] []
  | told {relay : Relay} {move : Move} {rest : List Move} {event : TransportEvent Update}
      {events : List (TransportEvent Update)} (owed : relay.Owes move client address event)
      (later : Hears client address (move.apply relay) rest events) :
      Hears client address relay (move :: rest) (event :: events)
  | untold {relay : Relay} {move : Move} {rest : List Move}
      {events : List (TransportEvent Update)}
      (nothing : ∀ event, ¬relay.Owes move client address event)
      (later : Hears client address (move.apply relay) rest events) :
      Hears client address relay (move :: rest) events

/-! ## What a delivery adds -/

theorem heard_of_mail_eq {later : Relay} (mail : later.mail = relay.mail) :
    later.heard client address = relay.heard client address := by
  rw [heard, heard, mail]

/-- A member hears an event as often as it is among those to whom it goes. -/
theorem heard_deliverAll (opened : relay.IsOpen address) (members : List (ClientId × Address))
    (event : TransportEvent Update) (client : ClientId) :
    (relay.deliverAll members event).heard client address =
      relay.heard client address ++ List.replicate (members.count (client, address)) event := by
  rw [deliverAll]
  induction members generalizing relay with
  | nil => simp
  | cons member rest ih =>
      have still : (relay.deliver member event).IsOpen address :=
        (isOpen_deliverAll_iff [member] event relay address).2 opened
      have first : (relay.deliver member event).heard client address =
          relay.heard client address ++
            List.replicate (if member = (client, address) then 1 else 0) event := by
        rw [heard, heard, inbox_deliver]
        by_cases here : address = member.2
        · rw [if_pos ⟨here, opened⟩, eventsOf_append]
          by_cases same : member.1 = client
          · simp [eventsOf, Prod.ext_iff, same, here]
          · simp [eventsOf, Prod.ext_iff, same]
        · have elsewhere : member ≠ (client, address) := by
            rintro rfl
            exact here rfl
          rw [if_neg fun both => here both.1, if_neg elsewhere]
          simp
      rw [List.foldl_cons, ih still, first, List.append_assoc, List.replicate_append_replicate,
        List.count_cons, Nat.add_comm]
      simp

/-- An event that goes to members of whom none is named twice. -/
theorem heard_deliverAll_of_nodup {members : List (ClientId × Address)}
    (opened : relay.IsOpen address) (nodup : (members.map (·.1)).Nodup)
    (event : TransportEvent Update) (client : ClientId) :
    (relay.deliverAll members event).heard client address =
      relay.heard client address ++ if (client, address) ∈ members then [event] else [] := by
  rw [heard_deliverAll opened, nodup.of_map.count]
  split <;> rfl

/-- Of the members of a room who are called by one name, there is one at most. -/
theorem take_one_named {members : List (ClientId × Address)} (nodup : (members.map (·.1)).Nodup)
    (client : ClientId) :
    (members.filter (·.1 == client)).take 1 = members.filter (·.1 == client) := by
  apply List.take_of_length_le
  have single := List.nodup_iff_count_le_one.1 nodup client
  rwa [List.count, List.countP_map, List.countP_eq_length_filter] at single

/-! ## What a call comes to -/

/-- What a call comes to: the rooms may change, and one event goes to some members, who are those to
whom it is owed. -/
structure Tells (home : ClientId → String) (relay : Relay) (move : Move) (changed : Relay)
    (members : List (ClientId × Address)) (event : TransportEvent Update) : Prop where
  apply_eq : move.apply relay = changed.deliverAll members event
  mail_eq : changed.mail = relay.mail
  housed : changed.Housed home
  nodup : (members.map (·.1)).Nodup
  owes_iff : ∀ client address other, relay.Owes move client address other ↔
    other = event ∧ (client, address) ∈ members

/-- A call of which nobody is told. -/
theorem Tells.of_quiet {move : Move} (mail : (move.apply relay).mail = relay.mail)
    (housed : (move.apply relay).Housed home)
    (nothing : ∀ client address event, ¬relay.Owes move client address event) :
    Tells home relay move (move.apply relay) [] .connected :=
  ⟨rfl, mail, housed, by simp, by simpa using nothing⟩

/-- A call that changes nothing. -/
theorem Housed.tells_of_eq (housed : relay.Housed home) {move : Move}
    (unchanged : move.apply relay = relay)
    (nothing : ∀ client address event, ¬relay.Owes move client address event) :
    ∃ changed members event, Tells home relay move changed members event := by
  refine ⟨_, _, _, .of_quiet ?_ ?_ nothing⟩
  · exact congrArg Relay.mail unchanged
  · exact housed.of_rooms_eq (congrArg Relay.rooms unchanged)

theorem Housed.tells_connect (housed : relay.Housed home) (client : ClientId)
    (target : ConnectTarget) (address : Address)
    (keeps : ∀ url, target = .relay url → relay.isOnline = true → url = home client) :
    ∃ changed members event,
      Tells home relay (.connect client target address) changed members event := by
  cases target with
  | relay url =>
      by_cases online : relay.isOnline = true
      · have isHome := keeps url rfl online
        refine ⟨relay.putRoom (relay.entered url client address), [(client, address)], .connected,
          ⟨?_, mail_putRoom _ _, housed.entered isHome address, by simp, ?_⟩⟩
        · simp only [Move.apply, connect, online, if_true]
          rfl
        · intro own place event
          constructor
          · rintro ⟨_⟩
            simp
          · rintro ⟨rfl, isSelf⟩
            rw [List.mem_singleton, Prod.mk.injEq] at isSelf
            rcases isSelf with ⟨rfl, rfl⟩
            exact .connected online
      · refine housed.tells_of_eq (by simp [Move.apply, connect, online]) ?_
        rintro own place event ⟨connects⟩
        exact online connects
  | listen =>
      refine housed.tells_of_eq rfl ?_
      rintro own place event ⟨⟩
  | peer endpointId relayUrl =>
      refine housed.tells_of_eq rfl ?_
      rintro own place event ⟨⟩

theorem Housed.tells_disconnect (housed : relay.Housed home) (client : ClientId) :
    ∃ changed members event, Tells home relay (.disconnect client) changed members event := by
  refine ⟨_, _, _, .of_quiet rfl ?_ ?_⟩
  · exact housed.shrink rfl (fun _ => rfl) (fun _ => rfl) fun _ => List.filter_sublist
  · rintro own place event ⟨⟩

theorem Housed.tells_setOnline (housed : relay.Housed home) (online : Bool) :
    ∃ changed members event, Tells home relay (.setOnline online) changed members event := by
  cases online with
  | true =>
      refine ⟨_, _, _, .of_quiet rfl (housed.of_rooms_eq rfl) ?_⟩
      rintro own place event ⟨⟩
  | false =>
      have emptied : relay.emptied.Housed home :=
        housed.shrink rfl (fun _ => rfl) (fun _ => rfl) fun _ => List.nil_sublist _
      refine ⟨relay.emptied, relay.rooms.flatMap (·.members), .disconnected,
        ⟨rfl, rfl, emptied, housed.nodup_seats, ?_⟩⟩
      intro own place event
      rw [List.mem_flatMap]
      constructor
      · intro owed
        cases owed with
        | disconnected present isMember => exact ⟨rfl, _, present, isMember⟩
      · rintro ⟨rfl, room, present, isMember⟩
        exact .disconnected present isMember

/-- A request is answered to the one who asks. -/
theorem Housed.tells_syncRequest (housed : relay.Housed home) (client : ClientId) :
    ∃ changed members event,
      Tells home relay (.send client .syncRequest) changed members event := by
  have asks (own : ClientId) (place : Address) (event : TransportEvent Update)
      (owed : relay.Owes (.send client .syncRequest) own place event) :
      own = client ∧ relay.isOnline = true ∧ ∃ room ∈ relay.rooms,
        (client, place) ∈ room.members ∧ event = .syncResponse room.replica.fullState := by
    cases owed with
    | update carries _ _ _ => cases carries
    | syncResponse online present isMember => exact ⟨rfl, online, _, present, isMember, rfl⟩
  by_cases online : relay.isOnline = true
  · cases found : relay.roomOf? client with
    | none =>
        refine housed.tells_of_eq (by simp [Move.apply, send, online, found]) ?_
        intro own place event owed
        rcases asks own place event owed with ⟨_, _, room, present, isMember, _⟩
        have nowhere := List.find?_eq_none.1 found room present
        exact nowhere (hasMember_of_mem isMember)
    | some room =>
        rcases housed.roomOf?_eq_some_iff.1 found with ⟨present, hasMember⟩
        have once := housed.once room present
        refine ⟨relay, room.members.filter (·.1 == client), .syncResponse room.replica.fullState,
          ⟨?_, rfl, housed, once.sublist (List.filter_sublist.map _), ?_⟩⟩
        · simp only [Move.apply, send, online, Bool.not_true, Bool.false_eq_true, if_false, found]
          rw [take_one_named once]
        · intro own place event
          rw [List.mem_filter, beq_iff_eq]
          constructor
          · intro owed
            rcases asks own place event owed with ⟨rfl, _, other, otherPresent, isMember, rfl⟩
            rw [housed.eq_of_hasMember present otherPresent hasMember (hasMember_of_mem isMember)]
            exact ⟨rfl, isMember, rfl⟩
          · rintro ⟨rfl, isMember, rfl⟩
            exact .syncResponse online present isMember
  · refine housed.tells_of_eq (by simp [Move.apply, send, online]) ?_
    intro own place event owed
    exact online (asks own place event owed).2.1

/-- A payload that the room takes up is passed on to the others there, and no other payload to
anybody. -/
theorem Housed.tells_payload (housed : relay.Housed home) (sender : ClientId)
    {message : OutboundMessage Update} (carries : message.payload? = some payload) :
    ∃ changed members event, Tells home relay (.send sender message) changed members event := by
  have passes (own : ClientId) (place : Address) (event : TransportEvent Update)
      (owed : relay.Owes (.send sender message) own place event) :
      event = .update payload ∧ own ≠ sender ∧ ∃ room replica,
        relay.Takes sender payload room replica ∧ (own, place) ∈ room.members := by
    cases owed with
    | update otherCarries takes isMember other =>
        cases Option.some.inj (carries.symm.trans otherCarries)
        exact ⟨rfl, other, _, _, takes, isMember⟩
    | syncResponse _ _ _ => cases carries
  by_cases accepted : ∃ room replica, relay.Takes sender payload room replica
  · rcases accepted with ⟨room, replica, takes⟩
    have once := housed.once room takes.present
    have merged : (relay.putRoom { room with replica := replica.clearWalks }).Housed home := by
      refine housed.putRoom once (housed.own room takes.present) ?_
      exact ((housed.grown room takes.present).apply takes.applied).withWalks []
    refine ⟨relay.putRoom { room with replica := replica.clearWalks },
      room.members.filter (·.1 != sender), .update payload,
      ⟨housed.send_of_takes carries takes, mail_putRoom _ _, merged,
        once.sublist (List.filter_sublist.map _), ?_⟩⟩
    intro own place event
    rw [List.mem_filter, bne_iff_ne]
    constructor
    · intro owed
      rcases passes own place event owed with ⟨rfl, differs, other, _, otherTakes, isMember⟩
      rw [housed.eq_of_hasMember takes.present otherTakes.present takes.sends otherTakes.sends]
      exact ⟨rfl, isMember, differs⟩
    · rintro ⟨rfl, isMember, differs⟩
      exact .update carries takes isMember differs
  · refine housed.tells_of_eq ?_ ?_
    · refine housed.send_of_not_takes carries ?_
      intro room replica takes
      exact accepted ⟨room, replica, takes⟩
    · intro own place event owed
      rcases passes own place event owed with ⟨_, _, room, replica, takes, _⟩
      exact accepted ⟨room, replica, takes⟩

theorem Housed.tells (housed : relay.Housed home) {move : Move} {rest : List Move}
    (keeps : relay.KeepsTo home (move :: rest)) :
    ∃ changed members event, Tells home relay move changed members event := by
  cases move with
  | connect client target address =>
      refine housed.tells_connect client target address ?_
      rintro url rfl
      exact keeps [] client url address rest rfl
  | disconnect client => exact housed.tells_disconnect client
  | setOnline online => exact housed.tells_setOnline online
  | send client message =>
      cases message with
      | syncRequest => exact housed.tells_syncRequest client
      | update payload => exact housed.tells_payload client rfl
      | fullState payload => exact housed.tells_payload client rfl

section Told

variable {move : Move} {changed : Relay} {members : List (ClientId × Address)}
  {event : TransportEvent Update}

theorem Tells.housed_apply (tells : Tells home relay move changed members event) :
    (move.apply relay).Housed home := by
  rw [tells.apply_eq]
  exact tells.housed.of_rooms_eq (rooms_deliverAll _ _ _)

theorem Tells.isOpen_apply (tells : Tells home relay move changed members event)
    (opened : relay.IsOpen address) : (move.apply relay).IsOpen address := by
  rw [tells.apply_eq, isOpen_deliverAll_iff, IsOpen, tells.mail_eq]
  exact opened

theorem Tells.heard_apply (tells : Tells home relay move changed members event)
    (opened : relay.IsOpen address) (client : ClientId) :
    (move.apply relay).heard client address =
      relay.heard client address ++ if (client, address) ∈ members then [event] else [] := by
  have stillOpen : changed.IsOpen address := by
    rw [IsOpen, tells.mail_eq]
    exact opened
  rw [tells.apply_eq, heard_deliverAll_of_nodup stillOpen tells.nodup,
    heard_of_mail_eq tells.mail_eq]

/-- What is owed by a call and by those after it. -/
theorem Tells.hears_cons_iff (tells : Tells home relay move changed members event)
    {rest : List Move} {events : List (TransportEvent Update)} :
    Hears client address relay (move :: rest) events ↔
      ∃ later, events = (if (client, address) ∈ members then [event] else []) ++ later ∧
        Hears client address (move.apply relay) rest later := by
  have owes_iff := tells.owes_iff client address
  constructor
  · intro hears
    cases hears with
    | told owed later =>
        rcases (owes_iff _).1 owed with ⟨rfl, isMember⟩
        exact ⟨_, by rw [if_pos isMember, List.singleton_append], later⟩
    | untold nothing later =>
        have absent : (client, address) ∉ members := by
          intro isMember
          exact nothing event ((owes_iff event).2 ⟨rfl, isMember⟩)
        exact ⟨_, by rw [if_neg absent, List.nil_append], later⟩
  · rintro ⟨later, rfl, hears⟩
    by_cases isMember : (client, address) ∈ members
    · rw [if_pos isMember, List.singleton_append]
      exact .told ((owes_iff event).2 ⟨rfl, isMember⟩) hears
    · rw [if_neg isMember, List.nil_append]
      refine .untold ?_ hears
      intro other owed
      exact isMember ((owes_iff other).1 owed).2

end Told

/-! ## One call after the other -/

theorem KeepsTo.tail {move : Move} {rest : List Move} (keeps : relay.KeepsTo home (move :: rest)) :
    (move.apply relay).KeepsTo home rest := by
  rintro earlier client url address later rfl
  exact keeps (move :: earlier) client url address later rfl

/-- A client hears what it is owed by one call after the other. -/
theorem Housed.run {moves : List Move} (housed : relay.Housed home)
    (keeps : relay.KeepsTo home moves) :
    (relay.run moves).Housed home ∧ ∀ client address, relay.IsOpen address →
      ∃ events, (relay.run moves).heard client address = relay.heard client address ++ events ∧
        ∀ owed, Hears client address relay moves owed ↔ owed = events := by
  induction moves generalizing relay with
  | nil =>
      refine ⟨housed, fun client address _ => ⟨[], (List.append_nil _).symm, ?_⟩⟩
      intro owed
      constructor
      · rintro ⟨⟩
        rfl
      · rintro rfl
        exact .nil relay
  | cons move rest ih =>
      rcases housed.tells keeps with ⟨changed, members, event, tells⟩
      rcases ih tells.housed_apply keeps.tail with ⟨housedEnd, hears⟩
      refine ⟨housedEnd, fun client address opened => ?_⟩
      rcases hears client address (tells.isOpen_apply opened) with ⟨events, heard, owes⟩
      refine ⟨(if (client, address) ∈ members then [event] else []) ++ events, ?_, ?_⟩
      · calc (relay.run (move :: rest)).heard client address
            = (move.apply relay).heard client address ++ events := heard
          _ = relay.heard client address ++
                ((if (client, address) ∈ members then [event] else []) ++ events) := by
              rw [tells.heard_apply opened, List.append_assoc]
      · intro owed
        rw [tells.hears_cons_iff]
        constructor
        · rintro ⟨later, rfl, hearsLater⟩
          rw [(owes later).1 hearsLater]
        · intro same
          exact ⟨events, same, (owes events).2 rfl⟩

/-- What holds of a relay after some calls. -/
structure Serves (office : PostOffice Update) (moves : List Move) : Prop where
  /-- Every client has heard what it was owed, in the order of the calls, and nothing else. -/
  hears : ∀ client address, (office.box address).isOpen = true → ∃ events,
    ((fresh office).run moves).heard client address =
        eventsOf client (office.inbox address) ++ events ∧
      ∀ owed, Hears client address (fresh office) moves owed ↔ owed = events
  /-- Nobody is in a room twice, or in two rooms. -/
  seated : ((((fresh office).run moves).rooms.flatMap (·.members)).map (·.1)).Nodup
  /-- The state that is sent to who asks for it is all of the document. -/
  whole : ∀ room ∈ ((fresh office).run moves).rooms, room.replica.fullState.Restores room.replica
  /-- A payload that is accepted changes the document of the sender's room, and no other. -/
  merged : ∀ sender message payload room replica, message.payload? = some payload →
    ((fresh office).run moves).Takes sender payload room replica →
    ∀ url, (((fresh office).run moves).send sender message).2.room? url =
      if url = room.url then some { room with replica := replica.clearWalks }
      else ((fresh office).run moves).room? url
  /-- A payload that is refused changes nothing. -/
  refused : ∀ sender message payload, message.payload? = some payload →
    (∀ room replica, ¬((fresh office).run moves).Takes sender payload room replica) →
    (((fresh office).run moves).send sender message).2 = (fresh office).run moves
  /-- An outage empties the rooms, and the documents stay. -/
  emptied : (((fresh office).run moves).setOnline false).rooms =
    ((fresh office).run moves).rooms.map fun (room : Room) => { room with members := [] }

/-- As long as each client connects to one room, a relay tells every client what it owes it, in the
order of the calls, and nothing else: an update that is accepted to all others in the room of the
sender, the state to who asks for it, and an outage to everybody. Nobody is in its room twice; what
is refused changes nothing; an outage empties the rooms and leaves their documents. -/
theorem serves_after (office : PostOffice Update) (moves : List Move)
    (each : OneRoomEach office moves) : Serves office moves := by
  rcases each with ⟨home, keeps⟩
  rcases (housed_fresh home office).run keeps with ⟨housed, hears⟩
  refine ⟨hears, housed.nodup_seats, ?_, ?_, ?_, rooms_deliverAll _ _ _⟩
  · intro room present
    exact (housed.grown room present).restores_fullState
  · intro sender message payload room replica carries takes url
    rw [housed.send_of_takes carries takes, room?, rooms_deliverAll, ← room?, room?_putRoom]
  · intro sender message payload carries refused
    exact housed.send_of_not_takes carries refused

/-- It is enough that no attempt to connect, refused or not, is for a foreign room. -/
theorem oneRoomEach_of_forall_mem {office : PostOffice Update} {moves : List Move}
    (home : ClientId → String)
    (keeps : ∀ client url address, .connect client (.relay url) address ∈ moves →
      url = home client) : OneRoomEach office moves := by
  refine ⟨home, ?_⟩
  rintro earlier client url address later rfl _
  exact keeps client url address (List.mem_append_right _ List.mem_cons_self)

/-- Two mailboxes that are open. -/
def lobby : PostOffice Update :=
  { boxes := [{}, {}] }

/-- What a new replica sends that has written a text. -/
def note (id : ReplicaId) (text : String) : Update :=
  (({ id } : Replica).setText text.toList).fullState

/-- Two clients that share a room and one in another, of whom two share a mailbox. -/
def bustle : List Move :=
  [.connect ⟨"a"⟩ (.relay "x") 0, .connect ⟨"b"⟩ (.relay "x") 1, .connect ⟨"c"⟩ (.relay "y") 1,
    .send ⟨"a"⟩ (.update (note 1 "u")), .send ⟨"a"⟩ (.update .malformed),
    .send ⟨"b"⟩ .syncRequest, .connect ⟨"b"⟩ (.relay "x") 1,
    .send ⟨"b"⟩ (.fullState (note 2 "v")), .disconnect ⟨"d"⟩, .setOnline false,
    .send ⟨"a"⟩ .syncRequest, .setOnline true, .send ⟨"a"⟩ .syncRequest]

theorem serves_after_bustle :
    OneRoomEach lobby bustle ∧ Serves lobby bustle ∧
      ((fresh lobby).run bustle).heard ⟨"a"⟩ 0 =
        [.connected, .update (note 2 "v"), .disconnected] ∧
      ((fresh lobby).run bustle).heard ⟨"b"⟩ 1 =
        [.connected, .update (note 1 "u"), .syncResponse (note 1 "u"), .connected,
          .disconnected] ∧
      ((fresh lobby).run bustle).heard ⟨"c"⟩ 1 = [.connected, .disconnected] := by
  have each : OneRoomEach lobby bustle := by
    refine oneRoomEach_of_forall_mem (fun client => if client = ⟨"c"⟩ then "y" else "x") ?_
    intro client url address isMove
    simp only [bustle, List.mem_cons, Move.connect.injEq, ConnectTarget.relay.injEq,
      reduceCtorEq, List.not_mem_nil, false_or, or_false] at isMove
    rcases isMove with ⟨rfl, rfl, _⟩ | ⟨rfl, rfl, _⟩ | ⟨rfl, rfl, _⟩ | ⟨rfl, rfl, _⟩
    · decide
    · decide
    · decide
    · decide
  exact ⟨each, serves_after lobby bustle each, by decide, by decide, by decide⟩

end Relay

end Cowrite
