import Cowrite.Proofs.Session.Flushing
import Cowrite.Proofs.Session.Moves

/-!
# What a session sends

A flush sends what the room lacks, or finds that it lacks nothing, or leaves everything pending
(`Sound.flush`). As the outbox believes of the room only what is true, the room takes up everything
that it is sent, and has the whole log of the session afterwards.
-/

namespace Cowrite

namespace Scene

variable {url : String} {history : History} {relay : Relay} {hand : List (Envelope Update)}
  {replica : Replica} {outbox : Outbox} {connection : Connection}

/-- What an outbox sends is accepted by the room. -/
theorem Sound.exists_accepts
    (sound : Sound url ⟨history, relay, hand, ⟨replica, outbox, connection⟩⟩) {room : Room}
    (present : room ∈ relay.rooms) (isUrl : room.url = url) :
    ∃ after, Relay.Accepts history room (outbox.updateFor replica) after ∧
      replica.log ⊆ after.log := by
  have log : relay.logAt url = room.replica.log := by
    rw [← isUrl, sound.relay.logAt_eq present]
  have trusts : outbox.Trusts room.replica.log := log ▸ sound.trusts
  have active : replica.Active history := sound.active
  rcases active.toSound.apply_updateFor sound.lawful (sound.relay.sound room present)
    (sound.relay.idle room present) trusts with
    ⟨after, applied, afterSound, idle, kept, caughtUp, complete⟩
  exact ⟨after, ⟨applied, afterSound, idle, kept, (active.tells_updateFor outbox).mono caughtUp,
    complete⟩, caughtUp⟩

/-- After an update was sent, the room has the whole log of the session. -/
theorem Sound.merged
    (sound : Sound url ⟨history, relay, hand, ⟨replica, outbox, connection⟩⟩) {own : ClientId}
    (isOwn : connection.client = some own) {after : Relay}
    (sent : relay.send own (.update (outbox.updateFor replica)) = (.ok (), after)) :
    Moves url ⟨history, relay, hand, ⟨replica, outbox, connection⟩⟩
      ⟨history, after, hand, ⟨replica,
        { outbox with pending := false, lastSent := some replica.token }, connection⟩⟩ := by
  rcases Relay.send_update sent with ⟨room, present, ⟨address, isMember⟩, isAfter⟩
  have isUrl : room.url = url := (sound.alone own isOwn _ _ isMember).1
  rcases sound.exists_accepts present isUrl with ⟨document, accepts, caughtUp⟩
  have active : replica.Active history := sound.active
  have minted : after.minted = relay.minted := by
    rw [isAfter]
    exact Relay.minted_merge accepts relay own
  have log : after.logAt url = document.log := by
    rw [isAfter, Relay.logAt_merge accepts, if_pos isUrl.symm]
  have grows : relay.logAt url ⊆ after.logAt url := by
    rw [log, ← isUrl, sound.relay.logAt_eq present]
    exact accepts.log_subset
  have members : ∀ {other client place}, after.IsMember other client place ↔
      relay.IsMember other client place := by
    intro other client place
    rw [isAfter]
    exact Relay.isMember_merge_iff sound.relay present accepts own
  rcases Relay.exists_inbox_merge accepts relay own connection.mailbox with ⟨new, inbox, about, _⟩
  rw [← isAfter] at inbox
  have cases_queue : ∀ envelope ∈ hand ++ after.mail.inbox connection.mailbox,
      envelope ∈ hand ++ relay.mail.inbox connection.mailbox ∨ envelope ∈ new := by
    intro envelope waits
    rw [inbox, ← List.append_assoc] at waits
    exact List.mem_append.1 waits
  have subset : ∀ {envelope}, envelope ∈ hand ++ relay.mail.inbox connection.mailbox →
      envelope ∈ hand ++ after.mail.inbox connection.mailbox := by
    intro envelope waits
    rw [inbox, ← List.append_assoc]
    exact List.mem_append_left _ waits
  have foreign : ∀ envelope ∈ new, connection.client ≠ some envelope.client := by
    intro envelope isNew same
    have client : connection.client = some own := isOwn
    exact (about envelope isNew).2.1 (Option.some.inj (same.symm.trans client))
  refine .of_relay ?_ rfl (Nat.le_of_eq minted.symm) (fun _ => .inl) ?_
  · refine
      { lawful := sound.lawful
        relay := by
          show after.Lawful history
          rw [isAfter]
          exact Relay.lawful_merge sound.relay present accepts own
        active := active
        target := sound.target
        staying := sound.staying
        standing := sound.standing
        isOpen := by
          show after.IsOpen connection.mailbox
          rw [isAfter]
          exact (Relay.isOpen_merge_iff accepts relay own _).2 sound.isOpen
        minted := fun client isClient =>
          (sound.minted client isClient).mono (Nat.le_of_eq minted.symm)
        alone := fun client isClient other place isMember =>
          sound.alone client isClient other place (members.1 isMember)
        named := ?_
        events := ?_
        answered := ?_
        linked := ?_
        waiting := fun operation waits => grows (sound.waiting operation waits)
        sent := fun _ => by
          show replica.log ⊆ after.logAt url
          rw [log]
          exact caughtUp
        trusts := by
          show ({ outbox with pending := false, lastSent := some replica.token } : Outbox).Trusts
            (after.logAt url)
          rw [log]
          exact active.trusts_recordVersion { outbox with pending := false } caughtUp }
    · intro envelope waits
      rcases cases_queue envelope waits with old | isNew
      · exact (sound.named envelope old).mono (Nat.le_of_eq minted.symm)
      · have inRoom : relay.IsMember room.url envelope.client connection.mailbox :=
          ⟨room, present, rfl, (about envelope isNew).2.2⟩
        exact (sound.relay.named _ _ _ inRoom).mono (Nat.le_of_eq minted.symm)
    · intro envelope waits isClient
      rcases cases_queue envelope waits with old | isNew
      · exact (sound.events envelope old isClient).mono grows
      · exact absurd isClient (foreign envelope isNew)
    · intro envelope waits isClient
      rcases cases_queue envelope waits with old | isNew
      · exact sound.answered envelope old isClient
      · exact absurd isClient (foreign envelope isNew)
    · intro joined
      rcases sound.linked joined with ⟨client, isClient, lost | ⟨stays, informed⟩⟩
      · exact ⟨client, isClient, .inl (subset lost)⟩
      · refine ⟨client, isClient, .inr ⟨members.2 stays, ?_⟩⟩
        intro operation taken
        have inDocument : operation ∈ document.log := log ▸ taken
        rcases accepts.complete operation inDocument with old | carried
        · have before : operation ∈ relay.logAt url := by
            rwa [← isUrl, sound.relay.logAt_eq present]
          rcases informed operation before with held | ⟨envelope, waits, told⟩
          · exact .inl held
          · exact .inr ⟨envelope, subset waits, told⟩
        · exact .inl (.inl ((active.tells_updateFor outbox).subset carried))
  · intro other client place bystander
    rw [isAfter]
    refine Relay.elsewhere_merge sound.relay present accepts ?_ bystander.alone
    intro isClient
    exact bystander.other own isClient isOwn

/-- A flush keeps the room and the outbox true to each other. -/
theorem Sound.flush {session : Session}
    (sound : Sound url ⟨history, relay, hand, session.attendance⟩) (now : Nat) (force : Bool) :
    ∃ outcome kept after, session.flush relay now force =
        (outcome, { session with outbox := kept }, after) ∧
      Moves url ⟨history, relay, hand, session.attendance⟩
        ⟨history, after, hand, ⟨session.replica, kept, session.connection⟩⟩ := by
  have stays : Moves url ⟨history, relay, hand, session.attendance⟩
      ⟨history, relay, hand, ⟨session.replica, session.outbox, session.connection⟩⟩ :=
    .refl sound
  simp only [Session.flush, Outbox.flush_eq]
  by_cases due : session.outbox.shouldFlush now force = true
  · by_cases nothing : (session.outbox.updateFor session.replica).isEmpty = true
    · refine ⟨.nothingChanged, { session.outbox with pending := false }, relay, ?_, ?_⟩
      · simp [due, nothing]
      · have subset : session.replica.log ⊆ relay.logAt url :=
          sound.active.toSound.log_subset_of_isEmpty sound.lawful sound.known sound.trusts nothing
        exact .of_sound (sound.withOutbox (fun _ => subset) sound.trusts) rfl rfl rfl rfl
          fun _ => id
    · cases isClient : session.connection.client with
      | none =>
          refine ⟨.failed, session.outbox, relay, ?_, stays⟩
          simp [due, nothing, Outbox.answered]
      | some own =>
          cases result : relay.send own (.update (session.outbox.updateFor session.replica)) with
          | mk answer after =>
              cases answer with
              | error error =>
                  refine ⟨.failed, session.outbox, relay, ?_, stays⟩
                  have same := Relay.send_eq_error result
                  subst same
                  simp [due, nothing, Transport.send, result, Outbox.answered]
              | ok done =>
                  refine ⟨.sent, _, after, ?_, sound.merged isClient result⟩
                  simp [due, nothing, Transport.send, result, Outbox.answered]
  · refine ⟨if session.outbox.pending then .waiting else .idle, session.outbox, relay, ?_, stays⟩
    simp [due]

end Scene

end Cowrite
