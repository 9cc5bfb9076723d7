import Cowrite.Proofs.Session.Calls

/-!
# Events and tasks of a session at a relay

What a session does about each event that a relay sends, and about each task of its agenda. An
update that is taken up is known from then on, so the event in hand has been dealt with. As every
call ends when nothing is left to be done, a whole poll is followed step by step
(`Attending.pollUpTo`).
-/

namespace Cowrite

open Scene

namespace Desk

variable {url : String} {history : History} {hand : List (Envelope Update)} {desk : Desk Relay}
  {session : Session}

/-! ## The first state -/

/-- What is given as the state of the room is taken up. -/
theorem Attending.receiveState (attending : desk.Attending url history hand session)
    {payload : Update} (tells : payload.Tells (desk.network.logAt url)) :
    ∃ updated received, Desk.receiveState session payload =
        { session with replica := updated, contentReceived := received } ∧
      Sound url ⟨history, desk.network, hand, ⟨updated, session.outbox, session.connection⟩⟩ ∧
      updated.id = session.replica.id ∧
      ∀ operation ∈ payload.carried, updated.Holds operation := by
  rw [Desk.receiveState]
  by_cases nothing : payload.isEmpty = true
  · rw [if_pos nothing]
    refine ⟨_, _, rfl, attending.sound, rfl, ?_⟩
    intro operation carried
    cases payload with
    | empty => simp [Update.carried] at carried
    | operations operations => simp [Update.isEmpty] at nothing
    | malformed => simp [Update.isEmpty] at nothing
  · rw [if_neg nothing]
    rcases session.replica.exists_apply tells.readable with ⟨updated, applied⟩
    rw [applied]
    exact ⟨_, _, rfl, Sound.apply attending.sound tells applied⟩

/-- What the outbox believes after the first state is true of the room. -/
theorem exists_settleOutbox {relay : Relay} {watched : Session}
    (sound : Sound url ⟨history, relay, hand, watched.attendance⟩) :
    ∃ kept, settleOutbox watched = { watched with outbox := kept } ∧
      Sound url ⟨history, relay, hand, ⟨watched.replica, kept, watched.connection⟩⟩ := by
  have unsent : watched.outbox.resetSent.Trusts (relay.logAt url) := by
    intro token held
    cases held
  rw [settleOutbox]
  by_cases again : (watched.isHost || watched.resync) = true
  · rw [if_pos again]
    refine ⟨_, rfl, Sound.withOutbox sound ?_ ?_⟩
    · split
      · exact sound.sent
      · exact fun idle => absurd idle (by simp [Outbox.markPending])
    · split
      · exact unsent
      · exact unsent
  · rw [if_neg again]
    by_cases pending : watched.outbox.pending = true
    · rw [if_pos pending]
      exact ⟨_, rfl, sound⟩
    · rw [if_neg pending]
      have idle : watched.outbox.pending = false := by
        simpa using pending
      have sent : watched.replica.log ⊆ relay.logAt url := sound.sent idle
      exact ⟨_, rfl, Sound.withOutbox sound (fun _ => sent)
        (sound.active.trusts_recordVersion _ sent)⟩

theorem Attending.onInitialState {own : ClientId} {payload : Update}
    (attending : desk.Attending url history [⟨own, .syncResponse payload⟩] session)
    (isOwn : session.connection.client = some own) (now : Nat) :
    (desk.onInitialState payload now).Follows url
      ⟨history, desk.network, [⟨own, .syncResponse payload⟩], session.attendance⟩ := by
  rcases attending.observe now with
    ⟨larger, watched, looked, observed, looking, network, connection, typed⟩
  have inHand : (⟨own, .syncResponse payload⟩ : Envelope Update) ∈
      Scene.queue ⟨larger, looked.network, [⟨own, .syncResponse payload⟩],
        watched.attendance⟩ := List.mem_append_left _ (List.mem_singleton.2 rfl)
  have stillOwn : watched.attendance.connection.client = some own := by
    show watched.connection.client = some own
    rw [connection, isOwn]
  have tells : payload.Tells (looked.network.logAt url) :=
    looking.sound.events _ inHand stillOwn
  have joined : watched.connection.state.isJoined = true :=
    looking.sound.answered _ inHand stillOwn payload rfl
  rcases looking.receiveState tells with ⟨updated, received, receives, receiving, sameId, held⟩
  let told : Session := { watched with replica := updated, contentReceived := received }
  replace receives : Desk.receiveState watched payload = told := receives
  rcases @exists_settleOutbox url larger _ looked.network told receiving with
    ⟨kept, settles, settled⟩
  have synced := (Sound.synced settled joined).dealtWith (by
    intro _ envelope present
    rw [List.mem_singleton.1 present]
    exact ⟨by simp, held⟩)
  let done : Session := { told with
    outbox := kept
    resync := false
    connection := { watched.connection with state := .synced } }
  have going : (looked.withSession done).Attending url larger [] done :=
    ⟨rfl, synced, looking.mode, looking.agenda.of_client_eq rfl⟩
  have moves : Moves url
      ⟨larger, looked.network, [⟨own, .syncResponse payload⟩], watched.attendance⟩
      ⟨larger, looked.network, [], done.attendance⟩ :=
    .of_sound synced rfl rfl sameId rfl fun _ => id
  refine Follows.of_moves (typed.trans moves) ?_
  simp only [Desk.onInitialState, attending.present, observed, receives, settles]
  refine Follows.notify ?_ _
  split
  · have suits : (looked.agenda.once .emptySyncFallback looked.settings.emptySyncWait now).Suits
        done.connection := going.agenda.planned (by simp) _ _
    exact .inl ⟨larger, done, ⟨rfl, going.sound, going.mode, suits⟩, .refl going.sound⟩
  · rcases going.displayOrDefer now with ⟨shown, buffer, displayed, showing, _, further⟩
    have follows : ({ looked with
        session := some (done.displayOrDefer looked.buffer now).1
        buffer := (done.displayOrDefer looked.buffer now).2 } : Desk Relay).Follows url
        ⟨larger, looked.network, [], done.attendance⟩ := by
      rw [show done.displayOrDefer looked.buffer now = (shown, buffer) from displayed]
      exact .inl ⟨larger, shown, showing, further⟩
    exact follows

/-! ## Updates -/

/-- What others have written is taken up, after what was typed was sent. -/
theorem Attending.onRemoteUpdate {own : ClientId} {payload : Update}
    (attending : desk.Attending url history [⟨own, .update payload⟩] session)
    (isOwn : session.connection.client = some own) (now : Nat) :
    (desk.onRemoteUpdate payload now).Follows url
      ⟨history, desk.network, [⟨own, .update payload⟩], session.attendance⟩ := by
  rcases attending.observe now with
    ⟨larger, watched, looked, observed, looking, _, connection, typed⟩
  rcases looking.flush now true with ⟨outcome, sent, after, flushed, sending, flushes⟩
  have tells : payload.Tells (after.logAt url) := by
    refine sending.sound.events ⟨own, .update payload⟩
      (List.mem_append_left _ (List.mem_singleton.2 rfl)) ?_
    show watched.connection.client = some own
    rw [connection, isOwn]
  rcases watched.replica.exists_apply tells.readable with ⟨updated, applied⟩
  rcases Sound.apply sending.sound tells applied with ⟨receiving, sameId, held⟩
  have noted : Sound url ⟨larger, after, [⟨own, .update payload⟩], ⟨updated,
      if sent.pending then sent else sent.recordVersion updated.token, watched.connection⟩⟩ := by
    by_cases pending : sent.pending = true
    · rw [if_pos pending]
      exact receiving
    · rw [if_neg pending]
      have idle : sent.pending = false := by
        simpa using pending
      have known : updated.log ⊆ after.logAt url := receiving.sent idle
      exact receiving.withOutbox (fun _ => known) (receiving.active.trusts_recordVersion _ known)
  have dealt := noted.dealtWith (by
    intro _ envelope present
    rw [List.mem_singleton.1 present]
    exact ⟨by simp, held⟩)
  let done : Session := { watched with
    replica := updated
    outbox := if sent.pending then sent else sent.recordVersion updated.token
    contentReceived := watched.contentReceived || !updated.isEmpty }
  have going : ({ looked with session := some done, network := after } : Desk Relay).Attending url
      larger [] done := ⟨rfl, dealt, looking.mode, looking.agenda⟩
  have moves : Moves url ⟨larger, after, [⟨own, .update payload⟩],
      ⟨watched.replica, sent, watched.connection⟩⟩ ⟨larger, after, [], done.attendance⟩ :=
    .of_sound dealt rfl rfl sameId rfl fun _ => id
  refine Follows.of_moves ((typed.trans flushes).trans moves) ?_
  rcases going.displayOrDefer now with ⟨shown, buffer, displayed, showing, _, further⟩
  have follows : ({ looked with
      session := some (done.displayOrDefer looked.buffer now).1
      network := after
      buffer := (done.displayOrDefer looked.buffer now).2 } : Desk Relay).Follows url
      ⟨larger, after, [], done.attendance⟩ := by
    rw [show done.displayOrDefer looked.buffer now = (shown, buffer) from displayed]
    exact .inl ⟨larger, shown, showing, further⟩
  simp only [Desk.onRemoteUpdate, attending.present, observed, flushed, applied]
  exact follows

/-! ## Events -/

/-- Every event that a relay sends is dealt with. -/
theorem Attending.handle {envelope : Envelope Update}
    (attending : desk.Attending url history [envelope] session)
    (isOwn : session.connection.client = some envelope.client) (now : Nat) :
    (desk.handle envelope.event now).Follows url
      ⟨history, desk.network, [envelope], session.attendance⟩ := by
  have comes : envelope.event.ComesFrom (desk.network.logAt url) :=
    attending.sound.events envelope (List.mem_append_left _ (List.mem_singleton.2 rfl)) isOwn
  rcases envelope with ⟨own, event⟩
  cases event with
  | connected => exact attending.onConnected now
  | disconnected => exact attending.onConnectionLost now
  | syncResponse payload => exact attending.onInitialState isOwn now
  | update payload => exact attending.onRemoteUpdate isOwn now
  | fullState payload => exact absurd comes id
  | error message => exact absurd comes id
  | peerConnected peer => exact absurd comes id
  | peerDisconnected peer => exact absurd comes id
  | ready endpointId relayUrl => exact absurd comes id

end Desk

end Cowrite
