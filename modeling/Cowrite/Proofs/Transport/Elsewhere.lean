import Cowrite.Proofs.Transport.Relay

/-!
# What others do at a relay

A session shares its relay with others, and whatever these do comes to it as a change of the relay
(`Relay.Elsewhere`): its mailbox is not touched except that events are added at the end, and what
is added about its own client is either an update of its room or the end of its connection. A
client that stays in its room is passed every operation that the room takes up; one that does not
stay is told. Such changes can be put together (`Elsewhere.trans`).

The operations of the relay are looked at one by one here, each for a client that has no part in
it.
-/

namespace Cowrite

/-- The operations that an event carries. -/
def TransportEvent.carried : TransportEvent Update → List Operation
  | .syncResponse payload => payload.carried
  | .update payload => payload.carried
  | .fullState payload => payload.carried
  | _ => []

namespace Relay

/-- A change of a relay by others, as it looks from a mailbox with the events of a client in the
room of a url. -/
structure Elsewhere (url : String) (client : Option ClientId) (address : Address)
    (before after : Relay) : Prop where
  minted_le : before.minted ≤ after.minted
  isOpen : before.IsOpen address → after.IsOpen address
  news : ∃ new, after.mail.inbox address = before.mail.inbox address ++ new ∧
    ∀ envelope ∈ new, after.HasMinted envelope.client ∧
      (client = some envelope.client → envelope.event = .disconnected ∨
        ∃ payload, envelope.event = .update payload ∧ payload.Tells (after.logAt url))
  member : ∀ own, client = some own → ∀ other place, after.IsMember other own place →
    before.IsMember other own place
  log_subset : before.logAt url ⊆ after.logAt url
  passed : ∀ own, client = some own → before.IsOpen address → before.IsMember url own address →
    ⟨own, .disconnected⟩ ∈ after.mail.inbox address ∨
      after.IsMember url own address ∧ ∀ operation ∈ after.logAt url,
        operation ∈ before.logAt url ∨ ∃ envelope ∈ after.mail.inbox address,
          envelope.client = own ∧ operation ∈ envelope.event.carried

section

variable {url : String} {client : Option ClientId} {address : Address} {before after : Relay}

theorem Elsewhere.inbox_subset (elsewhere : Elsewhere url client address before after) :
    before.mail.inbox address ⊆ after.mail.inbox address := by
  rcases elsewhere.news with ⟨new, inbox, _⟩
  rw [inbox]
  exact List.subset_append_left _ _

/-- A change that does not reach the client at all. -/
theorem Elsewhere.of_quiet (minted : before.minted ≤ after.minted)
    (isOpen : before.IsOpen address → after.IsOpen address)
    (inbox : ∃ new, after.mail.inbox address = before.mail.inbox address ++ new ∧
      ∀ envelope ∈ new, after.HasMinted envelope.client ∧ client ≠ some envelope.client)
    (member : ∀ own, client = some own → ∀ other place,
      after.IsMember other own place ↔ before.IsMember other own place)
    (log : after.logAt url = before.logAt url) : Elsewhere url client address before after := by
  refine ⟨minted, isOpen, ?_, ?_, ?_, ?_⟩
  · rcases inbox with ⟨new, same, others⟩
    refine ⟨new, same, ?_⟩
    intro envelope present
    exact ⟨(others envelope present).1, fun own => absurd own (others envelope present).2⟩
  · intro own isOwn other place isMember
    exact (member own isOwn other place).1 isMember
  · rw [log]
    exact List.Subset.refl _
  · intro own isOwn _ isMember
    refine .inr ⟨(member own isOwn url address).2 isMember, ?_⟩
    intro operation present
    rw [log] at present
    exact .inl present

theorem Elsewhere.refl (url : String) (client : Option ClientId) (address : Address)
    (relay : Relay) : Elsewhere url client address relay relay :=
  .of_quiet (Nat.le_refl _) id ⟨[], by simp, by simp⟩ (fun _ _ _ _ => Iff.rfl) rfl

theorem Elsewhere.trans {later : Relay} (first : Elsewhere url client address before after)
    (second : Elsewhere url client address after later) :
    Elsewhere url client address before later := by
  refine ⟨Nat.le_trans first.minted_le second.minted_le, fun opened =>
    second.isOpen (first.isOpen opened), ?_, ?_, ?_, ?_⟩
  · rcases first.news with ⟨early, earlyInbox, earlyNews⟩
    rcases second.news with ⟨late, lateInbox, lateNews⟩
    refine ⟨early ++ late, by rw [lateInbox, earlyInbox, List.append_assoc], ?_⟩
    intro envelope present
    rcases List.mem_append.1 present with isEarly | isLate
    · rcases earlyNews envelope isEarly with ⟨named, about⟩
      refine ⟨named.mono second.minted_le, ?_⟩
      intro own
      rcases about own with lost | ⟨payload, isUpdate, tells⟩
      · exact .inl lost
      · exact .inr ⟨payload, isUpdate, tells.mono second.log_subset⟩
    · exact lateNews envelope isLate
  · intro own isOwn other place isMember
    exact first.member own isOwn other place (second.member own isOwn other place isMember)
  · exact fun operation present => second.log_subset (first.log_subset present)
  · intro own isOwn opened isMember
    rcases first.passed own isOwn opened isMember with lost | ⟨stays, passed⟩
    · exact .inl (second.inbox_subset lost)
    · rcases second.passed own isOwn (first.isOpen opened) stays with lost | ⟨remains, further⟩
      · exact .inl lost
      · refine .inr ⟨remains, ?_⟩
        intro operation present
        rcases further operation present with old | ⟨envelope, waits, carries⟩
        · rcases passed operation old with older | ⟨envelope, waits, carries⟩
          · exact .inl older
          · exact .inr ⟨envelope, second.inbox_subset waits, carries⟩
        · exact .inr ⟨envelope, waits, carries⟩

/-! ## Mailboxes and names of others -/

/-- A change of the mail of others and of the names alone. -/
theorem Elsewhere.of_rooms_eq (minted : before.minted ≤ after.minted)
    (rooms : after.rooms = before.rooms)
    (isOpen : before.IsOpen address → after.IsOpen address)
    (inbox : after.mail.inbox address = before.mail.inbox address) :
    Elsewhere url client address before after :=
  .of_quiet minted isOpen ⟨[], by simp [inbox], by simp⟩
    (fun _ _ _ _ => isMember_of_rooms_eq rooms) (logAt_of_rooms_eq rooms url)

theorem elsewhere_mintClient (relay : Relay) :
    Elsewhere url client address relay relay.mintClient.2 :=
  .of_rooms_eq (Nat.le_succ _) rfl id rfl

theorem elsewhere_discard (relay : Relay) {other : Address} (differ : address ≠ other)
    (count : Nat) : Elsewhere url client address relay (Transport.discard relay other count) := by
  refine .of_rooms_eq (Nat.le_refl _) rfl ?_ ?_
  · intro opened
    simpa [IsOpen, Transport.discard] using opened
  · simp [Transport.discard, PostOffice.inbox_discard, differ]

theorem elsewhere_closeBox (relay : Relay) {other : Address} (differ : address ≠ other) :
    Elsewhere url client address relay (Transport.closeBox relay other) := by
  have box := relay.mail.box_closeBox_of_ne other address differ
  refine .of_rooms_eq (Nat.le_refl _) rfl ?_ ?_
  · intro opened
    simpa [IsOpen, Transport.closeBox, box] using opened
  · simp [Transport.closeBox, PostOffice.inbox, box]

theorem elsewhere_openBox (relay : Relay) (opened : relay.IsOpen address) :
    Elsewhere url client address relay (Transport.openBox relay).2 := by
  have differ : address ≠ relay.mail.openBox.1 := by
    rintro rfl
    rw [IsOpen, relay.mail.isOpen_openBox_fst] at opened
    exact Bool.noConfusion opened
  have box := relay.mail.box_openBox address
  rw [if_neg differ] at box
  refine .of_rooms_eq (Nat.le_refl _) rfl ?_ ?_
  · intro opened
    simpa [IsOpen, Transport.openBox, box] using opened
  · simp [Transport.openBox, PostOffice.inbox, box]

/-! ## Comings and goings of others -/

theorem logAt_disconnect (relay : Relay) (other : ClientId) (url : String) :
    (relay.disconnect other).logAt url = relay.logAt url := by
  simp only [logAt, room?, disconnect, List.find?_map, Function.comp_def, Room.withoutMember]
  cases relay.rooms.find? (fun room => room.url == url) <;> rfl

theorem isMember_disconnect_iff {relay : Relay} {other own : ClientId} {place : Address} :
    (relay.disconnect other).IsMember url own place ↔
      relay.IsMember url own place ∧ own ≠ other := by
  simp only [IsMember, disconnect, List.mem_map, Room.withoutMember]
  constructor
  · rintro ⟨room, ⟨old, present, rfl⟩, same, isMember⟩
    rcases List.mem_filter.1 isMember with ⟨wasMember, stays⟩
    exact ⟨⟨old, present, same, wasMember⟩, by simpa using stays⟩
  · rintro ⟨⟨room, present, same, isMember⟩, differ⟩
    exact ⟨_, ⟨room, present, rfl⟩, same, List.mem_filter.2 ⟨isMember, by simpa using differ⟩⟩

theorem lawful_disconnect {history : History} {relay : Relay} (lawful : relay.Lawful history)
    (other : ClientId) : (relay.disconnect other).Lawful history := by
  refine ⟨?_, ?_, ?_, ?_⟩
  · simpa [disconnect, List.map_map, Function.comp_def, Room.withoutMember] using lawful.distinct
  · intro room present
    rcases List.mem_map.1 present with ⟨old, oldMem, rfl⟩
    exact lawful.sound old oldMem
  · intro room present
    rcases List.mem_map.1 present with ⟨old, oldMem, rfl⟩
    exact lawful.idle old oldMem
  · intro other own place isMember
    exact lawful.named other own place (isMember_disconnect_iff.1 isMember).1

theorem elsewhere_disconnect (relay : Relay) {other : ClientId} (differ : client ≠ some other) :
    Elsewhere url client address relay (Transport.disconnect relay other) := by
  refine .of_quiet (Nat.le_refl _) id ⟨[], by simp [Transport.disconnect, disconnect], by simp⟩ ?_
    (logAt_disconnect relay other url)
  intro own isOwn room place
  refine isMember_disconnect_iff.trans ⟨fun both => both.1, fun isMember => ⟨isMember, ?_⟩⟩
  rintro rfl
  exact differ isOwn

/-- The room that a client enters, with the client in it. -/
def entered (relay : Relay) (url : String) (client : ClientId) (address : Address) : Room :=
  let room := ((relay.room? url).getD { url, replica := { id := 0 } }).withoutMember client
  { room with members := room.members ++ [(client, address)] }

theorem connect_eq_ok {relay : Relay} {other : ClientId} {target : ConnectTarget}
    {place : Address} (connected : relay.connect other target place = (.ok (), after)) :
    ∃ url, target = .relay url ∧
      after = (relay.putRoom (relay.entered url other place)).deliver (other, place)
        .connected := by
  cases target with
  | relay url =>
      simp only [connect] at connected
      split at connected
      · exact ⟨url, rfl, (Prod.mk.inj connected).2.symm⟩
      · simp at connected
  | listen => simp [connect] at connected
  | peer endpointId relayUrl => simp [connect] at connected

theorem connect_eq_error {relay : Relay} {other : ClientId} {target : ConnectTarget}
    {place : Address} {error : TransportError}
    (refused : relay.connect other target place = (.error error, after)) : after = relay := by
  cases target with
  | relay url =>
      simp only [connect] at refused
      split at refused
      · simp at refused
      · exact (Prod.mk.inj refused).2.symm
  | listen => exact (Prod.mk.inj refused).2.symm
  | peer endpointId relayUrl => exact (Prod.mk.inj refused).2.symm

theorem url_entered (relay : Relay) (url : String) (client : ClientId) (address : Address) :
    (relay.entered url client address).url = url := by
  cases found : relay.room? url with
  | none => simp [entered, found, Room.withoutMember]
  | some room => simp [entered, found, Room.withoutMember, (mem_of_room? found).2]

theorem log_entered (relay : Relay) (url : String) (client : ClientId) (address : Address) :
    (relay.entered url client address).replica.log = relay.logAt url := by
  cases found : relay.room? url with
  | none => simp [entered, logAt, found, Room.withoutMember]
  | some room => simp [entered, logAt, found, Room.withoutMember]

theorem mem_members_entered {history : History} {relay : Relay} (lawful : relay.Lawful history)
    {other own : ClientId} {place here : Address} :
    (own, place) ∈ (relay.entered url other here).members ↔
      own ≠ other ∧ relay.IsMember url own place ∨ own = other ∧ place = here := by
  have old : relay.IsMember url own place ↔
      (own, place) ∈ ((relay.room? url).getD { url, replica := { id := 0 } }).members := by
    constructor
    · rintro ⟨room, present, rfl, isMember⟩
      rwa [lawful.room?_eq present]
    · intro isMember
      cases found : relay.room? url with
      | none => simp [found] at isMember
      | some room =>
          rw [found] at isMember
          exact ⟨room, (mem_of_room? found).1, (mem_of_room? found).2, isMember⟩
  simp [entered, Room.withoutMember, old, and_comm]

theorem lawful_entered {history : History} {relay : Relay} (lawful : relay.Lawful history)
    {other : ClientId} (named : relay.HasMinted other) (place : Address) :
    (relay.putRoom (relay.entered url other place)).Lawful history := by
  have document : (relay.entered url other place).replica.Sound history ∧
      (relay.entered url other place).replica.waiting = [] := by
    cases found : relay.room? url with
    | none =>
        simp only [entered, found, Option.getD_none, Room.withoutMember]
        exact ⟨Replica.sound_new history 0, trivial⟩
    | some room =>
        simp only [entered, found, Option.getD_some, Room.withoutMember]
        exact ⟨lawful.sound room (mem_of_room? found).1, lawful.idle room (mem_of_room? found).1⟩
  refine ⟨distinct_putRoom lawful.distinct _, ?_, ?_, ?_⟩
  · intro room present
    rcases mem_rooms_putRoom.1 present with rfl | ⟨old, _⟩
    · exact document.1
    · exact lawful.sound room old
  · intro room present
    rcases mem_rooms_putRoom.1 present with rfl | ⟨old, _⟩
    · exact document.2
    · exact lawful.idle room old
  · intro asked own place' isMember
    rw [isMember_putRoom_iff] at isMember
    have known : relay.HasMinted own := by
      split at isMember
      · rcases (mem_members_entered lawful).1 isMember with ⟨_, old⟩ | ⟨rfl, _⟩
        · exact lawful.named _ _ _ old
        · exact named
      · exact lawful.named _ _ _ isMember
    exact known.mono (Nat.le_of_eq (minted_putRoom _ _).symm)

theorem logAt_putRoom_entered (relay : Relay) (entering : String) (other : ClientId)
    (place : Address) (url : String) :
    (relay.putRoom (relay.entered entering other place)).logAt url = relay.logAt url := by
  rw [logAt_putRoom, url_entered, log_entered]
  split
  case isTrue same => rw [same]
  case isFalse => rfl

theorem isMember_putRoom_entered {history : History} {relay : Relay}
    (lawful : relay.Lawful history) {entering : String} {other own : ClientId}
    {place here : Address} :
    (relay.putRoom (relay.entered entering other here)).IsMember url own place ↔
      (own ≠ other ∨ url ≠ entering) ∧ relay.IsMember url own place ∨
        own = other ∧ url = entering ∧ place = here := by
  rw [isMember_putRoom_iff, url_entered]
  by_cases same : url = entering
  · subst same
    rw [if_pos rfl, mem_members_entered lawful]
    simp
  · rw [if_neg same]
    simp [same]

theorem elsewhere_connect {history : History} {relay : Relay} (lawful : relay.Lawful history)
    {other : ClientId} (differ : client ≠ some other) {target : ConnectTarget}
    {place : Address} (apart : address ≠ place) {after : Relay}
    {result : Except TransportError Unit}
    (connected : relay.connect other target place = (result, after)) :
    Elsewhere url client address relay after := by
  cases result with
  | error error =>
      rw [connect_eq_error connected]
      exact .refl _ _ _ _
  | ok _ =>
      rcases connect_eq_ok connected with ⟨entering, rfl, rfl⟩
      have rooms := rooms_deliverAll [(other, place)] .connected
        (relay.putRoom (relay.entered entering other place))
      refine .of_quiet ?_ ?_ ⟨[], ?_, by simp⟩ ?_ ?_
      · exact Nat.le_of_eq (minted_putRoom _ _).symm
      · intro opened
        rw [IsOpen, ← mail_putRoom relay (relay.entered entering other place)] at opened
        exact (isOpen_deliverAll_iff [(other, place)] .connected _ address).2 opened
      · rw [inbox_deliver, if_neg (fun both => apart both.1), mail_putRoom, List.append_nil]
      · intro own isOwn room here
        refine (isMember_of_rooms_eq rooms).trans ((isMember_putRoom_entered lawful).trans ?_)
        have : own ≠ other := by
          rintro rfl
          exact differ isOwn
        simp [this]
      · exact (logAt_of_rooms_eq rooms url).trans (logAt_putRoom_entered _ _ _ _ _)

end

end Relay

end Cowrite
