import Cowrite.Proofs.Transport.Elsewhere

/-!
# What a relay passes on

A request for the state is answered to the one who asked, with everything that the room has taken
up (`send_syncRequest`). An update that the room takes up is passed on to all others there
(`elsewhere_merge`), and as the room never waits for anything, it is all that the room has
taken up with it. When the relay goes down everybody is told (`elsewhere_setOnline`).
-/

namespace Cowrite

namespace Relay

variable {history : History} {relay : Relay}

theorem mem_of_roomOf? {client : ClientId} {room : Room}
    (found : relay.roomOf? client = some room) :
    room ∈ relay.rooms ∧ ∃ address, relay.IsMember room.url client address := by
  have present := List.mem_of_find?_eq_some found
  have hasMember := List.find?_some found
  simp only [Room.hasMember, List.any_eq_true, beq_iff_eq] at hasMember
  rcases hasMember with ⟨⟨own, address⟩, isMember, rfl⟩
  exact ⟨present, address, room, present, rfl, isMember⟩

/-- A message that is refused changes nothing. -/
theorem send_eq_error {client : ClientId} {message : OutboundMessage Update} {after : Relay}
    {error : TransportError} (refused : relay.send client message = (.error error, after)) :
    after = relay := by
  simp only [send] at refused
  split at refused
  · exact (Prod.mk.inj refused).2.symm
  · split at refused
    · exact (Prod.mk.inj refused).2.symm
    · split at refused <;> simp at refused

/-! ## Requests for the state -/

/-- A request is answered with all that the room of the client has taken up. -/
theorem send_syncRequest (lawful : relay.Lawful history) {client : ClientId} {after : Relay}
    (sent : relay.send client .syncRequest = (.ok (), after)) :
    ∃ room ∈ relay.rooms, (∃ address, relay.IsMember room.url client address) ∧
      ∃ asking, (∀ member ∈ asking, member.1 = client ∧ member ∈ room.members) ∧ asking ≠ [] ∧
        after = relay.deliverAll asking (.syncResponse room.replica.fullState) := by
  simp only [send] at sent
  split at sent
  · simp at sent
  · rcases found : relay.roomOf? client with _ | room
    · simp [found] at sent
    · simp only [found] at sent
      rcases mem_of_roomOf? found with ⟨present, address, isMember⟩
      have inRoom : (client, address) ∈ room.members := by
        rcases isMember with ⟨other, otherMem, same, inOther⟩
        rwa [← List.inj_on_of_nodup_map lawful.distinct otherMem present same]
      refine ⟨room, present, ⟨address, isMember⟩,
        (room.members.filter (·.1 == client)).take 1, ?_, ?_, (Prod.mk.inj sent).2.symm⟩
      · intro member asks
        have := List.mem_filter.1 (List.mem_of_mem_take asks)
        exact ⟨by simpa using this.2, this.1⟩
      · intro none
        rw [List.take_eq_nil_iff] at none
        rcases none with impossible | none
        · exact absurd impossible (by decide)
        · have asks : (client, address) ∈ room.members.filter (·.1 == client) :=
            List.mem_filter.2 ⟨inRoom, by simp⟩
          rw [none] at asks
          exact absurd asks List.not_mem_nil

theorem elsewhere_syncRequest (lawful : relay.Lawful history) {url : String}
    {client : Option ClientId} {address : Address} {other : ClientId}
    (differ : client ≠ some other) {result : Except TransportError Unit} {after : Relay}
    (sent : relay.send other .syncRequest = (result, after)) :
    Elsewhere url client address relay after := by
  cases result with
  | error error =>
      rw [send_eq_error sent]
      exact .refl _ _ _ _
  | ok _ =>
      rcases send_syncRequest lawful sent with
        ⟨room, present, ⟨place, isMember⟩, asking, asks, _, rfl⟩
      have rooms := rooms_deliverAll asking (.syncResponse room.replica.fullState) relay
      have minted := minted_deliverAll asking (.syncResponse room.replica.fullState) relay
      rcases exists_inbox_deliverAll asking (.syncResponse room.replica.fullState) relay address
        with ⟨new, inbox, about, _⟩
      refine .of_quiet (Nat.le_of_eq minted.symm) (isOpen_deliverAll_iff _ _ _ _).2
        ⟨new, inbox, ?_⟩ (fun _ _ _ _ => isMember_of_rooms_eq rooms) (logAt_of_rooms_eq rooms url)
      intro envelope waits
      have isOther : envelope.client = other := (asks _ (about envelope waits).2).1
      rw [isOther]
      exact ⟨(lawful.named _ _ _ isMember).mono (Nat.le_of_eq minted.symm), differ⟩

/-! ## Updates -/

/-- What is known of an update that a room takes up. -/
structure Accepts (history : History) (room : Room) (payload : Update) (replica : Replica) :
    Prop where
  applied : room.replica.apply payload = .ok replica
  sound : replica.Sound history
  idle : replica.waiting = []
  log_subset : room.replica.log ⊆ replica.log
  tells : payload.Tells replica.log
  complete : ∀ operation ∈ replica.log,
    operation ∈ room.replica.log ∨ operation ∈ payload.carried

section Merge

variable {room : Room} {sender : ClientId} {payload : Update} {replica : Replica}

theorem merge_eq (accepts : Accepts history room payload replica) (relay : Relay)
    (sender : ClientId) :
    relay.merge room sender payload =
      (relay.putRoom { room with replica := replica.clearWalks }).deliverAll
        (room.members.filter (·.1 != sender)) (.update payload) := by
  simp [merge, accepts.applied]

theorem logAt_merge (accepts : Accepts history room payload replica) (relay : Relay)
    (sender : ClientId) (url : String) :
    (relay.merge room sender payload).logAt url =
      if url = room.url then replica.log else relay.logAt url := by
  rw [merge_eq accepts, logAt_of_rooms_eq (rooms_deliverAll _ _ _), logAt_putRoom]
  rfl

theorem isMember_merge_iff (lawful : relay.Lawful history) (present : room ∈ relay.rooms)
    (accepts : Accepts history room payload replica) (sender : ClientId) {url : String}
    {own : ClientId} {place : Address} :
    (relay.merge room sender payload).IsMember url own place ↔
      relay.IsMember url own place := by
  rw [merge_eq accepts, isMember_of_rooms_eq (rooms_deliverAll _ _ _), isMember_putRoom_iff]
  by_cases same : url = room.url
  · rw [if_pos same, same]
    constructor
    · intro isMember
      exact ⟨room, present, rfl, isMember⟩
    · rintro ⟨other, otherMem, sameUrl, isMember⟩
      rwa [List.inj_on_of_nodup_map lawful.distinct otherMem present sameUrl] at isMember
  · rw [if_neg same]

theorem minted_merge (accepts : Accepts history room payload replica) (relay : Relay)
    (sender : ClientId) : (relay.merge room sender payload).minted = relay.minted := by
  rw [merge_eq accepts, minted_deliverAll, minted_putRoom]

theorem isOpen_merge_iff (accepts : Accepts history room payload replica) (relay : Relay)
    (sender : ClientId) (address : Address) :
    (relay.merge room sender payload).IsOpen address ↔ relay.IsOpen address := by
  rw [merge_eq accepts, isOpen_deliverAll_iff, IsOpen, mail_putRoom]
  rfl

theorem exists_inbox_merge (accepts : Accepts history room payload replica) (relay : Relay)
    (sender : ClientId) (address : Address) :
    ∃ new, (relay.merge room sender payload).mail.inbox address =
        relay.mail.inbox address ++ new ∧
      (∀ envelope ∈ new, envelope.event = .update payload ∧ envelope.client ≠ sender ∧
        (envelope.client, address) ∈ room.members) ∧
      ∀ client, relay.IsOpen address → (client, address) ∈ room.members → client ≠ sender →
        ⟨client, .update payload⟩ ∈ new := by
  rw [merge_eq accepts]
  rcases exists_inbox_deliverAll (room.members.filter (·.1 != sender)) (.update payload)
    (relay.putRoom { room with replica := replica.clearWalks }) address with
    ⟨new, inbox, about, delivered⟩
  rw [mail_putRoom] at inbox
  refine ⟨new, inbox, ?_, ?_⟩
  · intro envelope waits
    rcases about envelope waits with ⟨isUpdate, isMember⟩
    rcases List.mem_filter.1 isMember with ⟨inRoom, differ⟩
    exact ⟨isUpdate, by simpa using differ, inRoom⟩
  · intro client opened isMember differ
    apply delivered client
    · rwa [IsOpen, mail_putRoom]
    · exact List.mem_filter.2 ⟨isMember, by simpa using differ⟩

theorem lawful_merge (lawful : relay.Lawful history) (present : room ∈ relay.rooms)
    (accepts : Accepts history room payload replica) (sender : ClientId) :
    (relay.merge room sender payload).Lawful history := by
  have put : (relay.putRoom { room with replica := replica.clearWalks }).Lawful history := by
    refine ⟨distinct_putRoom lawful.distinct _, ?_, ?_, ?_⟩
    · intro other otherMem
      rcases mem_rooms_putRoom.1 otherMem with rfl | ⟨old, _⟩
      · exact accepts.sound.withWalks []
      · exact lawful.sound other old
    · intro other otherMem
      rcases mem_rooms_putRoom.1 otherMem with rfl | ⟨old, _⟩
      · exact accepts.idle
      · exact lawful.idle other old
    · intro url own place isMember
      have was := (isMember_merge_iff lawful present accepts sender).1
        ((by
          rw [merge_eq accepts, isMember_of_rooms_eq (rooms_deliverAll _ _ _)]
          exact isMember) : (relay.merge room sender payload).IsMember url own place)
      exact (lawful.named _ _ _ was).mono (Nat.le_of_eq (minted_putRoom _ _).symm)
  rw [merge_eq accepts]
  exact put.of_rooms_eq (rooms_deliverAll _ _ _) (Nat.le_of_eq (minted_deliverAll _ _ _).symm)

/-- An update is passed on with all that the room has taken up with it. -/
theorem elsewhere_merge (lawful : relay.Lawful history) (present : room ∈ relay.rooms)
    (accepts : Accepts history room payload replica) {url : String} {client : Option ClientId}
    {address : Address} (differ : client ≠ some sender)
    (alone : ∀ own, client = some own → ∀ other place, relay.IsMember other own place →
      other = url) :
    Elsewhere url client address relay (relay.merge room sender payload) := by
  have minted := minted_merge accepts relay sender
  rcases exists_inbox_merge accepts relay sender address with ⟨new, inbox, about, delivered⟩
  refine ⟨Nat.le_of_eq minted.symm, (isOpen_merge_iff accepts relay sender address).2,
    ⟨new, inbox, ?_⟩, ?_, ?_, ?_⟩
  · intro envelope waits
    rcases about envelope waits with ⟨isUpdate, _, inRoom⟩
    have isMember : relay.IsMember room.url envelope.client address :=
      ⟨room, present, rfl, inRoom⟩
    refine ⟨(lawful.named _ _ _ isMember).mono (Nat.le_of_eq minted.symm), ?_⟩
    intro own
    have here := alone _ own _ _ isMember
    refine .inr ⟨payload, isUpdate, ?_⟩
    rw [logAt_merge accepts, if_pos here.symm]
    exact accepts.tells
  · intro own _ other place isMember
    exact (isMember_merge_iff lawful present accepts sender).1 isMember
  · rw [logAt_merge accepts]
    split
    case isTrue same =>
      rw [same, lawful.logAt_eq present]
      exact accepts.log_subset
    case isFalse => exact List.Subset.refl _
  · intro own isOwn opened isMember
    refine .inr ⟨(isMember_merge_iff lawful present accepts sender).2 isMember, ?_⟩
    intro operation taken
    rw [logAt_merge accepts] at taken
    by_cases same : url = room.url
    · rw [if_pos same] at taken
      rcases accepts.complete operation taken with old | carried
      · left
        rwa [same, lawful.logAt_eq present]
      · have inRoom : (own, address) ∈ room.members := by
          rcases isMember with ⟨other, otherMem, sameUrl, inOther⟩
          rwa [← List.inj_on_of_nodup_map lawful.distinct otherMem present
            (sameUrl.trans same)]
        have apart : own ≠ sender := by
          rintro rfl
          exact differ isOwn
        refine .inr ⟨⟨own, .update payload⟩, ?_, rfl, carried⟩
        rw [inbox]
        exact List.mem_append_right _ (delivered own opened inRoom apart)
    · rw [if_neg same] at taken
      exact .inl taken

end Merge

/-- An update goes to the room of its sender. -/
theorem send_update {client : ClientId} {payload : Update} {after : Relay}
    (sent : relay.send client (.update payload) = (.ok (), after)) :
    ∃ room ∈ relay.rooms, (∃ address, relay.IsMember room.url client address) ∧
      after = relay.merge room client payload := by
  simp only [send] at sent
  split at sent
  · simp at sent
  · rcases found : relay.roomOf? client with _ | room
    · simp [found] at sent
    · simp only [found] at sent
      rcases mem_of_roomOf? found with ⟨present, isMember⟩
      exact ⟨room, present, isMember, (Prod.mk.inj sent).2.symm⟩

/-! ## Outages -/

/-- The relay without anybody in its rooms. -/
def emptied (relay : Relay) : Relay :=
  { relay with
    isOnline := false
    rooms := relay.rooms.map fun (room : Room) => { room with members := [] } }

theorem setOnline_false (relay : Relay) :
    relay.setOnline false =
      relay.emptied.deliverAll (relay.rooms.flatMap (·.members)) .disconnected := rfl

theorem logAt_emptied (relay : Relay) (url : String) :
    relay.emptied.logAt url = relay.logAt url := by
  simp only [logAt, room?, emptied, List.find?_map, Function.comp_def]
  cases relay.rooms.find? (fun room => room.url == url) <;> rfl

theorem not_isMember_emptied (relay : Relay) (url : String) (own : ClientId) (place : Address) :
    ¬relay.emptied.IsMember url own place := by
  rintro ⟨room, present, _, isMember⟩
  rcases List.mem_map.1 present with ⟨old, _, rfl⟩
  simp at isMember

theorem lawful_setOnline (lawful : relay.Lawful history) (online : Bool) :
    (relay.setOnline online).Lawful history := by
  cases online with
  | true => exact lawful.of_rooms_eq rfl (Nat.le_refl _)
  | false =>
      have emptied : relay.emptied.Lawful history := by
        refine ⟨?_, ?_, ?_, ?_⟩
        · simpa [Relay.emptied, List.map_map, Function.comp_def] using lawful.distinct
        · intro room present
          rcases List.mem_map.1 present with ⟨old, oldMem, rfl⟩
          exact lawful.sound old oldMem
        · intro room present
          rcases List.mem_map.1 present with ⟨old, oldMem, rfl⟩
          exact lawful.idle old oldMem
        · intro url own place isMember
          exact absurd isMember (relay.not_isMember_emptied url own place)
      exact emptied.of_rooms_eq (rooms_deliverAll _ _ _)
        (Nat.le_of_eq (minted_deliverAll _ _ _).symm)

theorem elsewhere_setOnline (lawful : relay.Lawful history) (online : Bool) (url : String)
    (client : Option ClientId) (address : Address) :
    Elsewhere url client address relay (relay.setOnline online) := by
  cases online with
  | true => exact .of_rooms_eq (Nat.le_refl _) rfl id rfl
  | false =>
      rw [setOnline_false]
      have rooms := rooms_deliverAll (relay.rooms.flatMap (·.members)) .disconnected relay.emptied
      have minted : (relay.emptied.deliverAll (relay.rooms.flatMap (·.members))
          .disconnected).minted = relay.minted := minted_deliverAll _ _ _
      have log := (logAt_of_rooms_eq rooms url).trans (relay.logAt_emptied url)
      rcases exists_inbox_deliverAll (relay.rooms.flatMap (·.members)) .disconnected relay.emptied
        address with ⟨new, inbox, about, delivered⟩
      refine ⟨Nat.le_of_eq minted.symm,
        (isOpen_deliverAll_iff _ _ relay.emptied address).2, ⟨new, inbox, ?_⟩, ?_, ?_, ?_⟩
      · intro envelope waits
        rcases about envelope waits with ⟨isLoss, isMember⟩
        rcases List.mem_flatMap.1 isMember with ⟨room, present, inRoom⟩
        refine ⟨(lawful.named room.url _ _ ⟨room, present, rfl, inRoom⟩).mono
          (Nat.le_of_eq minted.symm), fun _ => .inl isLoss⟩
      · intro own _ other place isMember
        exact absurd ((isMember_of_rooms_eq rooms).1 isMember)
          (relay.not_isMember_emptied other own place)
      · rw [log]
        exact List.Subset.refl _
      · rintro own _ opened ⟨room, present, _, inRoom⟩
        left
        rw [inbox]
        exact List.mem_append_right _
          (delivered own opened (List.mem_flatMap.2 ⟨room, present, inRoom⟩))

end Relay

end Cowrite
