import Cowrite.Proofs.Replica.Exchange
import Cowrite.Proofs.Transport.Mailbox
import Cowrite.Transport.Relay

/-!
# A relay as its clients see it

What a relay does is told by a few views of it: which names it has made (`HasMinted`), which
mailboxes are open (`IsOpen`) and what waits in them, who is in which room with what mailbox
(`IsMember`), and what each room has taken up (`logAt`). In a lawful relay (`Relay.Lawful`) every
address belongs to one room, and the documents of the rooms are sound and wait for nothing.

Names are numbered, so a name that is made is a new one (`not_hasMinted_mintClient`).
-/

namespace Cowrite

namespace Relay

/-- Whether the mailbox at an address is open. -/
def IsOpen (relay : Relay) (address : Address) : Prop :=
  (relay.mail.box address).isOpen = true

instance (relay : Relay) (address : Address) : Decidable (relay.IsOpen address) :=
  inferInstanceAs (Decidable (_ = true))

/-- Whether a client is in the room of a url, with its events going to an address. -/
def IsMember (relay : Relay) (url : String) (client : ClientId) (address : Address) : Prop :=
  ∃ room ∈ relay.rooms, room.url = url ∧ (client, address) ∈ room.members

/-- The operations that the room of a url has taken up. -/
def logAt (relay : Relay) (url : String) : List Operation :=
  ((relay.room? url).map (·.replica.log)).getD []

/-- Whether the relay has made a name. -/
def HasMinted (relay : Relay) (client : ClientId) : Prop :=
  ∃ number ≤ relay.minted, client = ⟨s!"loopback-{number}"⟩

/-- A relay with one room for every url, in which the documents of a history are kept. -/
structure Lawful (history : History) (relay : Relay) : Prop where
  distinct : (relay.rooms.map (·.url)).Nodup
  sound : ∀ room ∈ relay.rooms, room.replica.Sound history
  idle : ∀ room ∈ relay.rooms, room.replica.waiting = []
  named : ∀ url client address, relay.IsMember url client address → relay.HasMinted client

variable {history : History} {relay : Relay}

/-! ## Names -/

theorem name_injective {left right : Nat}
    (same : (⟨s!"loopback-{left}"⟩ : ClientId) = ⟨s!"loopback-{right}"⟩) : left = right := by
  have texts : s!"loopback-{left}" = s!"loopback-{right}" := congrArg ClientId.text same
  have written : left.repr = right.repr := (String.append_right_inj "loopback-").1 texts
  have digits := congrArg (fun text : String => Nat.ofDigitChars 10 text.toList 0) written
  simpa using digits

theorem HasMinted.mono {after : Relay} {client : ClientId} (named : relay.HasMinted client)
    (le : relay.minted ≤ after.minted) : after.HasMinted client := by
  rcases named with ⟨number, early, same⟩
  exact ⟨number, Nat.le_trans early le, same⟩

theorem hasMinted_mintClient (relay : Relay) :
    relay.mintClient.2.HasMinted relay.mintClient.1 :=
  ⟨relay.minted + 1, Nat.le_refl _, rfl⟩

/-- A name that is made is a new one. -/
theorem not_hasMinted_mintClient (relay : Relay) : ¬relay.HasMinted relay.mintClient.1 := by
  rintro ⟨number, early, same⟩
  have := name_injective same
  omega

/-! ## Rooms -/

theorem room?_putRoom (relay : Relay) (room : Room) (url : String) :
    (relay.putRoom room).room? url = if url = room.url then some room else relay.room? url := by
  have asked : (fun other : Room => (if other.url = room.url then room else other).url == url) =
      fun other => other.url == url := by
    funext other
    by_cases same : other.url = room.url
    · rw [if_pos same, same]
    · rw [if_neg same]
  rw [putRoom]
  by_cases known : relay.rooms.any (·.url == room.url) = true
  · rw [if_pos known]
    simp only [room?, List.find?_map, Function.comp_def, asked]
    by_cases same : url = room.url
    · rw [if_pos same]
      cases found : relay.rooms.find? (fun other => other.url == url) with
      | none =>
          rw [List.find?_eq_none] at found
          rw [List.any_eq_true] at known
          rcases known with ⟨other, present, isUrl⟩
          exact absurd (by rwa [same]) (found other present)
      | some other =>
          have isUrl := List.find?_some found
          rw [beq_iff_eq] at isUrl
          simp [isUrl, same]
    · rw [if_neg same]
      cases found : relay.rooms.find? (fun other => other.url == url) with
      | none => rfl
      | some other =>
          have isUrl := List.find?_some found
          rw [beq_iff_eq] at isUrl
          simp [isUrl, same]
  · rw [if_neg known]
    simp only [room?, List.find?_append, List.find?_singleton]
    by_cases same : url = room.url
    · have unknown : relay.rooms.find? (fun other => other.url == url) = none := by
        simpa [same] using known
      rw [if_pos same, unknown, same]
      simp
    · have differ : ¬room.url = url := fun eq => same eq.symm
      simp [same, differ]

theorem mem_rooms_putRoom {room other : Room} :
    other ∈ (relay.putRoom room).rooms ↔
      other = room ∨ other ∈ relay.rooms ∧ other.url ≠ room.url := by
  rw [putRoom]
  by_cases known : relay.rooms.any (·.url == room.url) = true
  · rw [if_pos known]
    rw [List.any_eq_true] at known
    rcases known with ⟨found, foundMem, isUrl⟩
    rw [beq_iff_eq] at isUrl
    simp only [List.mem_map]
    constructor
    · rintro ⟨old, present, rfl⟩
      by_cases same : old.url = room.url
      · exact .inl (if_pos same)
      · rw [if_neg same]
        exact .inr ⟨present, same⟩
    · rintro (rfl | ⟨present, differ⟩)
      · exact ⟨found, foundMem, if_pos isUrl⟩
      · exact ⟨other, present, if_neg differ⟩
  · rw [if_neg known]
    simp only [List.mem_append, List.mem_singleton]
    constructor
    · rintro (present | new)
      · refine .inr ⟨present, ?_⟩
        intro same
        exact known (List.any_eq_true.2 ⟨other, present, by simp [same]⟩)
      · exact .inl new
    · rintro (new | ⟨present, _⟩)
      · exact .inr new
      · exact .inl present

theorem distinct_putRoom (distinct : (relay.rooms.map (·.url)).Nodup) (room : Room) :
    ((relay.putRoom room).rooms.map (·.url)).Nodup := by
  rw [putRoom]
  by_cases known : relay.rooms.any (·.url == room.url) = true
  · rw [if_pos known, List.map_map]
    have urls : (relay.rooms.map ((·.url) ∘ fun other =>
        if other.url = room.url then room else other)) = relay.rooms.map (·.url) := by
      apply List.map_congr_left
      intro other _
      by_cases same : other.url = room.url
      · simp [same]
      · simp [same]
    rwa [urls]
  · rw [if_neg known, List.map_append, List.nodup_append]
    refine ⟨distinct, by simp, ?_⟩
    intro url present other single same
    rw [List.map_singleton, List.mem_singleton] at single
    rcases List.mem_map.1 present with ⟨old, oldMem, rfl⟩
    exact known (List.any_eq_true.2 ⟨old, oldMem, by simp [same, single]⟩)

theorem mem_of_room? {url : String} {room : Room} (found : relay.room? url = some room) :
    room ∈ relay.rooms ∧ room.url = url :=
  ⟨List.mem_of_find?_eq_some found, by simpa using List.find?_some found⟩

theorem Lawful.room?_eq (lawful : relay.Lawful history) {room : Room}
    (present : room ∈ relay.rooms) : relay.room? room.url = some room := by
  cases found : relay.room? room.url with
  | none =>
      have absent := List.find?_eq_none.1 found room present
      simp at absent
  | some other =>
      rcases mem_of_room? found with ⟨otherMem, same⟩
      rw [List.inj_on_of_nodup_map lawful.distinct otherMem present same]

theorem Lawful.logAt_eq (lawful : relay.Lawful history) {room : Room}
    (present : room ∈ relay.rooms) : relay.logAt room.url = room.replica.log := by
  rw [logAt, lawful.room?_eq present]
  rfl

theorem Lawful.logAt_known (lawful : relay.Lawful history) (url : String) :
    ∀ operation ∈ relay.logAt url, operation ∈ history := by
  intro operation present
  cases found : relay.room? url with
  | none => simp [logAt, found] at present
  | some room =>
      rw [logAt, found] at present
      exact (lawful.sound room (mem_of_room? found).1).known operation present

theorem logAt_putRoom (room : Room) (url : String) :
    (relay.putRoom room).logAt url =
      if url = room.url then room.replica.log else relay.logAt url := by
  rw [logAt, room?_putRoom]
  split
  · rfl
  · rfl

theorem minted_putRoom (relay : Relay) (room : Room) :
    (relay.putRoom room).minted = relay.minted := by
  rw [putRoom]
  split <;> rfl

theorem mail_putRoom (relay : Relay) (room : Room) :
    (relay.putRoom room).mail = relay.mail := by
  rw [putRoom]
  split <;> rfl

theorem isMember_putRoom_iff {room : Room} {url : String} {client : ClientId} {address : Address} :
    (relay.putRoom room).IsMember url client address ↔
      if url = room.url then (client, address) ∈ room.members
      else relay.IsMember url client address := by
  constructor
  · rintro ⟨other, present, rfl, isMember⟩
    rcases mem_rooms_putRoom.1 present with rfl | ⟨old, differ⟩
    · rwa [if_pos rfl]
    · rw [if_neg differ]
      exact ⟨other, old, rfl, isMember⟩
  · intro inRoom
    by_cases same : url = room.url
    · rw [if_pos same] at inRoom
      exact ⟨room, mem_rooms_putRoom.2 (.inl rfl), same.symm, inRoom⟩
    · rw [if_neg same] at inRoom
      rcases inRoom with ⟨other, present, rfl, isMember⟩
      exact ⟨other, mem_rooms_putRoom.2 (.inr ⟨present, same⟩), rfl, isMember⟩

theorem lawful_new (history : History) : ({} : Relay).Lawful history := by
  refine ⟨List.nodup_nil, by simp, by simp, ?_⟩
  rintro url client address ⟨room, present, _⟩
  cases present

theorem Lawful.mono {larger : History} (subset : history ⊆ larger)
    (lawful : relay.Lawful history) : relay.Lawful larger :=
  ⟨lawful.distinct, fun room present => (lawful.sound room present).mono subset, lawful.idle,
    lawful.named⟩

/-- A relay stays lawful while only its mail changes and new names are made. -/
theorem Lawful.of_rooms_eq {after : Relay} (lawful : relay.Lawful history)
    (rooms : after.rooms = relay.rooms) (le : relay.minted ≤ after.minted) :
    after.Lawful history := by
  refine ⟨by rw [rooms]; exact lawful.distinct, by rw [rooms]; exact lawful.sound,
    by rw [rooms]; exact lawful.idle, ?_⟩
  rintro url client address ⟨room, present, same, isMember⟩
  rw [rooms] at present
  exact (lawful.named url client address ⟨room, present, same, isMember⟩).mono le

theorem logAt_of_rooms_eq {after : Relay} (rooms : after.rooms = relay.rooms) (url : String) :
    after.logAt url = relay.logAt url := by
  rw [logAt, logAt, room?, room?, rooms]

theorem isMember_of_rooms_eq {after : Relay} (rooms : after.rooms = relay.rooms) {url : String}
    {client : ClientId} {address : Address} :
    after.IsMember url client address ↔ relay.IsMember url client address := by
  rw [IsMember, IsMember, rooms]

/-! ## Mail -/

section Deliver

variable (members : List (ClientId × Address)) (event : TransportEvent Update)

theorem rooms_deliverAll (relay : Relay) :
    (relay.deliverAll members event).rooms = relay.rooms := by
  rw [deliverAll]
  induction members generalizing relay with
  | nil => rfl
  | cons member rest ih => rw [List.foldl_cons, ih]; rfl

theorem minted_deliverAll (relay : Relay) :
    (relay.deliverAll members event).minted = relay.minted := by
  rw [deliverAll]
  induction members generalizing relay with
  | nil => rfl
  | cons member rest ih => rw [List.foldl_cons, ih]; rfl

theorem isOpen_deliverAll_iff (relay : Relay) (address : Address) :
    (relay.deliverAll members event).IsOpen address ↔ relay.IsOpen address := by
  rw [deliverAll]
  induction members generalizing relay with
  | nil => rfl
  | cons member rest ih =>
      rw [List.foldl_cons, ih]
      simp [deliver, IsOpen]

theorem inbox_deliver (relay : Relay) (member : ClientId × Address) (address : Address) :
    (relay.deliver member event).mail.inbox address =
      if address = member.2 ∧ relay.IsOpen address then
        relay.mail.inbox address ++ [⟨member.1, event⟩] else relay.mail.inbox address :=
  PostOffice.inbox_deliver _ _ _ _

/-- What a delivery to several members adds to a mailbox. -/
theorem exists_inbox_deliverAll (relay : Relay) (address : Address) :
    ∃ new, (relay.deliverAll members event).mail.inbox address =
        relay.mail.inbox address ++ new ∧
      (∀ envelope ∈ new, envelope.event = event ∧ (envelope.client, address) ∈ members) ∧
      ∀ client, relay.IsOpen address → (client, address) ∈ members →
        ⟨client, event⟩ ∈ new := by
  rw [deliverAll]
  induction members generalizing relay with
  | nil => exact ⟨[], by simp, by simp, by simp⟩
  | cons member rest ih =>
      rcases ih (relay.deliver member event) with ⟨new, inbox, about, delivered⟩
      have isOpen : (relay.deliver member event).IsOpen address ↔ relay.IsOpen address :=
        isOpen_deliverAll_iff [member] event relay address
      rw [List.foldl_cons, inbox, inbox_deliver]
      by_cases here : address = member.2 ∧ relay.IsOpen address
      · rw [if_pos here]
        refine ⟨⟨member.1, event⟩ :: new, by simp, ?_, ?_⟩
        · intro envelope present
          rcases List.mem_cons.1 present with rfl | later
          · refine ⟨rfl, ?_⟩
            rw [here.1]
            exact List.mem_cons_self
          · exact ⟨(about envelope later).1, List.mem_cons_of_mem _ (about envelope later).2⟩
        · intro client opened isMember
          rcases List.mem_cons.1 isMember with same | later
          · rw [← same]
            exact List.mem_cons_self
          · exact List.mem_cons_of_mem _ (delivered client (isOpen.2 opened) later)
      · rw [if_neg here]
        refine ⟨new, rfl, ?_, ?_⟩
        · intro envelope present
          exact ⟨(about envelope present).1, List.mem_cons_of_mem _ (about envelope present).2⟩
        · intro client opened isMember
          rcases List.mem_cons.1 isMember with same | later
          · exact absurd ⟨by rw [← same], opened⟩ here
          · exact delivered client (isOpen.2 opened) later

end Deliver

end Relay

end Cowrite
