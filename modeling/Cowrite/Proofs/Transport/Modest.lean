import Cowrite.Proofs.Transport.Relay
import Cowrite.Session.Connection
import Cowrite.Transport.Scripted

/-!
# Transports that answer little

What a transport puts into the mailbox of a client while it is called decides how long the client
has to poll. A modest transport answers an attempt to connect with no more than the confirmation,
and a request for the state with no more than one state (`Transport.Modest`). A transport from which
nothing comes while it is called is modest (`Transport.Silent.modest`), and so is the relay within
the process, which answers at once (`Relay.modest`).
-/

namespace Cowrite

/-- The events of a client among those that wait. -/
def eventsOf (client : ClientId) (waiting : List (Envelope Update)) :
    List (TransportEvent Update) :=
  (waiting.filter (·.client == client)).map (·.event)

@[simp]
theorem eventsOf_nil (client : ClientId) : eventsOf client [] = [] :=
  rfl

@[simp]
theorem eventsOf_append (client : ClientId) (first second : List (Envelope Update)) :
    eventsOf client (first ++ second) = eventsOf client first ++ eventsOf client second := by
  simp [eventsOf]

theorem eventsOf_eq_nil {client : ClientId} {waiting : List (Envelope Update)}
    (foreign : ∀ envelope ∈ waiting, envelope.client ≠ client) : eventsOf client waiting = [] := by
  simpa [eventsOf] using foreign

/-- What a transport may put into mailboxes while it is called. -/
structure Transport.Modest (ν : Type) [Transport ν] : Prop where
  discard_zero : ∀ (network : ν) (address : Address), Transport.discard network address 0 = network
  inbox_discard : ∀ (network : ν) (address : Address) (count : Nat),
    Transport.inbox (Transport.discard network address count) address =
      (Transport.inbox network address).drop count
  mints : ∀ (network : ν) (address : Address),
    Transport.inbox (Transport.mintClient network).2 address = Transport.inbox network address
  connects : ∀ (network : ν) (client : ClientId) (target : ConnectTarget) (key : Option SessionKey)
    (address : Address), ∃ new,
      Transport.inbox (Transport.connect network client target key address).2 address =
        Transport.inbox network address ++ new ∧
      (eventsOf client new = [] ∨ eventsOf client new = [.connected])
  sends : ∀ (network : ν) (client : ClientId) (message : OutboundMessage Update)
    (address : Address), ∃ new,
      Transport.inbox (Transport.send network client message).2 address =
        Transport.inbox network address ++ new ∧
      (eventsOf client new = [] ∨ message = .syncRequest ∧
        ∃ payload, eventsOf client new = [.syncResponse payload])

/-- Whether nothing comes from a transport while it is called. -/
structure Transport.Silent (ν : Type) [Transport ν] : Prop where
  discard_zero : ∀ (network : ν) (address : Address), Transport.discard network address 0 = network
  inbox_discard : ∀ (network : ν) (address : Address) (count : Nat),
    Transport.inbox (Transport.discard network address count) address =
      (Transport.inbox network address).drop count
  mints : ∀ (network : ν) (address : Address),
    Transport.inbox (Transport.mintClient network).2 address = Transport.inbox network address
  connects : ∀ (network : ν) (client : ClientId) (target : ConnectTarget) (key : Option SessionKey)
    (address : Address),
    Transport.inbox (Transport.connect network client target key address).2 address =
      Transport.inbox network address
  sends : ∀ (network : ν) (client : ClientId) (message : OutboundMessage Update)
    (address : Address),
    Transport.inbox (Transport.send network client message).2 address =
      Transport.inbox network address

theorem Transport.Silent.modest {ν : Type} [Transport ν] (silent : Transport.Silent ν) :
    Transport.Modest ν where
  discard_zero := silent.discard_zero
  inbox_discard := silent.inbox_discard
  mints := silent.mints
  connects network client target key address :=
    ⟨[], by rw [silent.connects, List.append_nil], .inl rfl⟩
  sends network client message address := ⟨[], by rw [silent.sends, List.append_nil], .inl rfl⟩

namespace PostOffice

variable {π : Type}

theorem discard_zero (office : PostOffice π) (address : Address) :
    office.discard address 0 = office := by
  have same : (fun box : Mailbox π => box.discard 0) = id := rfl
  rw [discard, update, same, List.modify_id]

end PostOffice

namespace Scripted

theorem mail_overhear (scripted : Scripted) (update : Update) :
    (scripted.overhear update).mail = scripted.mail := by
  rw [overhear]
  split
  · rfl
  · rfl

theorem mail_overhearMessage (scripted : Scripted) (message : OutboundMessage Update) :
    (scripted.overhearMessage message).mail = scripted.mail := by
  cases message with
  | syncRequest => rfl
  | update update => exact scripted.mail_overhear update
  | fullState update => exact scripted.mail_overhear update

/-- It is the script that decides when anything comes. -/
theorem silent : Transport.Silent Scripted where
  discard_zero network address :=
    congrArg (fun mail => { network with mail }) (network.mail.discard_zero address)
  inbox_discard network address count := by
    simp [Transport.inbox, Transport.discard, PostOffice.inbox_discard]
  mints network address := rfl
  connects network client target key address := by
    simp only [Transport.inbox, Transport.connect, connect]
    split
    · rfl
    · rfl
  sends network client message address := by
    simp only [Transport.inbox, Transport.send, send]
    split
    · rfl
    · exact congrArg (·.inbox address) (network.mail_overhearMessage message)

end Scripted

namespace Relay

theorem inbox_merge_own (relay : Relay) (room : Room) (client : ClientId) (update : Update)
    (address : Address) :
    ∃ new, (relay.merge room client update).mail.inbox address =
      relay.mail.inbox address ++ new ∧ eventsOf client new = [] := by
  rw [merge]
  cases room.replica.apply update with
  | error _ => exact ⟨[], by simp, rfl⟩
  | ok replica =>
      rcases exists_inbox_deliverAll (room.members.filter (·.1 != client)) (.update update)
        (relay.putRoom { room with replica := replica.clearWalks }) address with
        ⟨new, inbox, about, _⟩
      rw [mail_putRoom] at inbox
      refine ⟨new, inbox, eventsOf_eq_nil ?_⟩
      intro envelope present own
      have others := (List.mem_filter.1 (about envelope present).2).2
      simp [own] at others

theorem modest : Transport.Modest Relay where
  discard_zero network address :=
    congrArg (fun mail => { network with mail }) (network.mail.discard_zero address)
  inbox_discard network address count := by
    simp [Transport.inbox, Transport.discard, PostOffice.inbox_discard]
  mints network address := rfl
  connects network client target key address := by
    have quiet (failed : Relay) (mail : failed.mail = network.mail) :
        ∃ new, failed.mail.inbox address = network.mail.inbox address ++ new ∧
          (eventsOf client new = [] ∨ eventsOf client new = [.connected]) :=
      ⟨[], by rw [mail, List.append_nil], .inl rfl⟩
    simp only [Transport.inbox, Transport.connect, connect]
    split
    · split
      · simp only [inbox_deliver, mail_putRoom]
        split
        · exact ⟨_, rfl, .inr (by simp [eventsOf])⟩
        · exact quiet _ rfl
      · exact quiet _ rfl
    · exact quiet _ rfl
  sends network client message address := by
    have quiet : ∃ new, network.mail.inbox address = network.mail.inbox address ++ new ∧
        (eventsOf client new = [] ∨ message = .syncRequest ∧
          ∃ payload, eventsOf client new = [.syncResponse payload]) :=
      ⟨[], by simp, .inl rfl⟩
    simp only [Transport.inbox, Transport.send, send]
    split
    · exact quiet
    · cases network.roomOf? client with
      | none => exact quiet
      | some room =>
          simp only
          cases message with
          | syncRequest =>
              cases asking : room.members.filter (·.1 == client) with
              | nil => exact quiet
              | cons member rest =>
                  have asked : member ∈ room.members.filter (·.1 == client) :=
                    asking ▸ List.mem_cons_self
                  have own : (member.1 == client) = true := (List.mem_filter.1 asked).2
                  rw [List.take_succ_cons, List.take_zero]
                  show ∃ new, (network.deliver member (.syncResponse room.replica.fullState)
                    ).mail.inbox address = _ ∧ _
                  rw [network.inbox_deliver _ member address]
                  split
                  · exact ⟨_, rfl, .inr ⟨rfl, room.replica.fullState, by simp [eventsOf, own]⟩⟩
                  · exact quiet
          | update update =>
              rcases network.inbox_merge_own room client update address with ⟨new, inbox, none⟩
              exact ⟨new, inbox, .inl none⟩
          | fullState update =>
              rcases network.inbox_merge_own room client update address with ⟨new, inbox, none⟩
              exact ⟨new, inbox, .inl none⟩

end Relay

end Cowrite
