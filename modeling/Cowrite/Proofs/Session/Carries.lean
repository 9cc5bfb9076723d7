import Cowrite.Proofs.Session.Call
import Cowrite.Proofs.Session.Ledger
import Cowrite.Proofs.Session.Rounds

/-!
# What a desk does to the ledger of its session

Whatever a desk does takes steps in the ledger of its session, or the session is over (`Carries`);
what it hears comes from the one matter that it deals with (`carries_deal`).

Only when a peer connects to its host something else happens (`exists_onPeerConnected_of_host`):
the peer is sent everything, and the outbox takes it that everybody has it. What all these changes
keep up is true of every session (`HasLedger.pollOnce`, `HasLedger.perform`).
-/

namespace Cowrite

open Ledger (Step Steps)

/-! ## Lines -/

namespace Line

variable {ν : Type} [Transport ν] (line : Line (Recorded ν)) (now : Nat)

/-- A message is recorded if it is accepted, and without a client it is not. -/
theorem send_cases (message : OutboundMessage Update) :
    (∃ transport, line.send message = (.ok (), { line with
        network := { transport, accepted := line.network.accepted ++ [message] } })) ∨
      ∃ error transport, line.send message =
        (.error error, { line with network := { line.network with transport } }) := by
  rw [send]
  cases line.connection.client with
  | none => exact .inr ⟨_, line.network.transport, rfl⟩
  | some client =>
      simp only
      rcases line.network.send_cases client message with
        ⟨transport, accepted⟩ | ⟨error, transport, refused⟩
      · exact .inl ⟨transport, by rw [accepted]⟩
      · exact .inr ⟨error, transport, by rw [refused]⟩

theorem accepted_connect : (line.connect now).2.network.accepted = line.network.accepted := by
  have kept : (Transport.connect (Transport.mintClient line.network).2
      (Transport.mintClient line.network).1 line.connection.target line.connection.key
      line.connection.mailbox).2.accepted = line.network.accepted := rfl
  rw [connect]
  rcases answer : Transport.connect (Transport.mintClient line.network).2
      (Transport.mintClient line.network).1 line.connection.target line.connection.key
      line.connection.mailbox with ⟨_ | ⟨⟩, network⟩
  · simp only [answer]
    rwa [answer] at kept
  · simp only [answer]
    rwa [answer] at kept

theorem accepted_hangUp : line.hangUp.network.accepted = line.network.accepted := by
  rw [hangUp]
  split
  · rfl
  · rfl

theorem accepted_lose : (line.lose now).2.network.accepted = line.network.accepted := by
  have hung := ({ line with agenda := line.agenda.cancel .connectTimeout } :
    Line (Recorded ν)).accepted_hangUp
  rw [lose]
  split
  · rfl
  · simp only
    split
    · exact hung
    · exact hung

theorem accepted_redial : (line.redial now).2.network.accepted = line.network.accepted := by
  have connected := line.accepted_connect now
  rw [redial]
  split
  · rfl
  · rcases result : line.connect now with ⟨_ | ⟨⟩, later⟩
    · rw [result] at connected
      simp only
      rw [accepted_lose]
      exact connected
    · rw [result] at connected
      exact connected

end Line

/-! ## Desks -/

namespace Desk

variable {ν : Type} {heard : Option Update} {desk after : Desk (Recorded ν)}
  {session later : Session}

/-- Whether a session goes on, and its ledger has changed step by step, or is over. -/
def Carries (heard : Option Update) (desk after : Desk (Recorded ν)) : Prop :=
  after.session = none ∨
    ∃ session later, desk.session = some session ∧ after.session = some later ∧
      session.Continues later ∧
        Steps heard (session.ledger desk.network) (later.ledger after.network)

theorem Carries.refl (heard : Option Update) (desk : Desk (Recorded ν)) :
    desk.Carries heard desk := by
  rcases Option.eq_none_or_eq_some desk.session with ended | ⟨session, present⟩
  · exact .inl ended
  · exact .inr ⟨session, session, present, present, .refl session, .refl⟩

theorem Carries.trans {last : Desk (Recorded ν)} (one : desk.Carries heard after)
    (two : after.Carries heard last) : desk.Carries heard last := by
  rcases two with ended | ⟨middle, later, between, present, goesOn, steps⟩
  · exact .inl ended
  · rcases one with ended | ⟨session, other, before, next, went, first⟩
    · cases ended.symm.trans between
    · cases next.symm.trans between
      exact .inr ⟨session, later, before, present, went.trans goesOn, first.trans steps⟩

theorem Carries.notify (carries : desk.Carries heard after) (notice : Notice) :
    desk.Carries heard (after.notify notice) :=
  carries

theorem Carries.ended (carries : desk.Carries heard after) (ended : desk.session = none) :
    after.session = none := by
  rcases carries with gone | ⟨_, _, present, _⟩
  · exact gone
  · cases ended.symm.trans present

theorem carries_of_ended (ended : after.session = none) : desk.Carries heard after :=
  .inl ended

/-- A session that changes its ledger without a word to its peers. -/
theorem carries_of_steps (present : desk.session = some session) (next : after.session = some later)
    (role : later.role = session.role) (mode : later.mode = session.mode)
    (peers : later.peers = session.peers)
    (steps : Steps heard (session.ledger desk.network) (later.ledger after.network)) :
    desk.Carries heard after :=
  .inr ⟨session, later, present, next, ⟨role, mode, fun _ member => peers ▸ member⟩, steps⟩

/-- What concerns the connection only leaves the ledger as it is. -/
theorem carries_withLine (present : desk.session = some session)
    (continues : session.Continues later) (replica : later.replica = session.replica)
    (outbox : later.outbox = session.outbox) {line : Line (Recorded ν)}
    (accepted : line.network.accepted = desk.network.accepted) :
    desk.Carries heard (desk.withLine later line) := by
  refine .inr ⟨session, _, present, rfl,
    ⟨continues.role, continues.mode, continues.peers⟩, ?_⟩
  simp only [Session.ledger, withLine, replica, outbox, accepted]
  exact .refl

/-- Whether something is true of the ledger of the session at a desk, if there is one. -/
def HasLedger (holds : Ledger → Prop) (desk : Desk (Recorded ν)) : Prop :=
  ∀ session, desk.session = some session → holds (session.ledger desk.network)

theorem HasLedger.carries {holds : Ledger → Prop} (kept : Ledger.Kept holds)
    (has : desk.HasLedger holds) (carries : desk.Carries heard after) : after.HasLedger holds := by
  intro other same
  rcases carries with ended | ⟨session, later, present, next, _, steps⟩
  · cases ended.symm.trans same
  · cases next.symm.trans same
    exact kept.steps steps (has session present)

/-! ### The connection -/

theorem carries_onReady (heard : Option Update) (desk : Desk (Recorded ν))
    (endpointId relayUrl : String) : desk.Carries heard (desk.onReady endpointId relayUrl) := by
  rw [onReady]
  cases present : desk.session with
  | none => exact .refl heard desk
  | some session =>
      refine Carries.notify ?_ _
      simp only
      split
      · let invited : Session := { session with
          invitation := some (Invitation.peer endpointId relayUrl) }
        have same : session.Continues invited := ⟨rfl, rfl, List.Subset.refl _⟩
        have confirms : desk.Carries heard (desk.withLine invited (desk.line session).confirm.2) :=
          carries_withLine present same rfl rfl rfl
        split
        · exact confirms.notify _
        · exact confirms
      · exact carries_of_steps present rfl rfl rfl rfl .refl

theorem carries_onPeerDisconnected (heard : Option Update) (desk : Desk (Recorded ν))
    (peer : String) : desk.Carries heard (desk.onPeerDisconnected peer) := by
  rw [onPeerDisconnected]
  cases present : desk.session with
  | none => exact .refl heard desk
  | some session =>
      have fewer : session.peers.filter (· != peer) ⊆ session.peers := List.filter_subset_self _
      refine Carries.notify ?_ _
      simp only
      split
      · exact .inr ⟨session, _, present, rfl, ⟨rfl, rfl, fewer⟩, .refl⟩
      · exact .inr ⟨session, _, present, rfl, ⟨rfl, rfl, fewer⟩, .refl⟩

theorem carries_runReconcile (heard : Option Update) (desk : Desk (Recorded ν)) (now : Nat) :
    desk.Carries heard (desk.runReconcile now) := by
  rw [runReconcile]
  cases present : desk.session with
  | none => exact .refl heard desk
  | some session =>
      simp only
      have observes := session.steps_observe desk.network desk.buffer now heard
      split
      · exact .refl heard desk
      · split
        · exact .inr ⟨session, _, present, rfl, ⟨rfl, rfl, List.Subset.refl _⟩,
            observes.trans (Session.steps_reconcile _ _ _ now heard)⟩
        · exact .inr ⟨session, _, present, rfl, ⟨rfl, rfl, List.Subset.refl _⟩, observes⟩

theorem carries_runEmptySyncFallback (heard : Option Update) (desk : Desk (Recorded ν))
    (now : Nat) : desk.Carries heard (desk.runEmptySyncFallback now) := by
  rw [runEmptySyncFallback]
  cases present : desk.session with
  | none => exact .refl heard desk
  | some session =>
      simp only
      have observes := session.steps_observe desk.network desk.buffer now heard
      split
      · exact .refl heard desk
      · split
        · exact .inr ⟨session, _, present, rfl, ⟨rfl, rfl, List.Subset.refl _⟩, observes⟩
        · exact .inr ⟨session, _, present, rfl, ⟨rfl, rfl, List.Subset.refl _⟩,
            observes.tail (.shares _ _)⟩

theorem carries_onInitialState (desk : Desk (Recorded ν)) (payload : Update) (now : Nat) :
    desk.Carries (some payload) (desk.onInitialState payload now) := by
  rcases Option.eq_none_or_eq_some desk.session with ended | ⟨session, present⟩
  · rw [onInitialState, ended]
    exact .refl _ desk
  · have told := (session.steps_observe desk.network desk.buffer now (some payload)).trans
      ((session.observe desk.buffer now).1.steps_informed desk.network payload)
    have same : session.Continues (informed (session.observe desk.buffer now).1 payload) := by
      rw [informed, settleOutbox_eq, receiveState_eq]
      exact ⟨rfl, rfl, List.Subset.refl _⟩
    rw [onInitialState_of_present present]
    refine Carries.notify ?_ _
    split
    · exact .inr ⟨session, _, present, rfl, same, told⟩
    · refine .inr ⟨session, _, present, rfl, ?_, told.trans
        (Session.steps_displayOrDefer _ _ _ now _)⟩
      rw [Session.displayOrDefer]
      split
      · exact ⟨same.role, same.mode, same.peers⟩
      · exact ⟨same.role, same.mode, same.peers⟩

/-! ### What a transport takes part in -/

variable [Transport ν]

theorem carries_nextEvent (heard : Option Update) (desk : Desk (Recorded ν)) :
    desk.Carries heard desk.nextEvent.2 := by
  rw [nextEvent]
  cases present : desk.session with
  | none => exact .refl heard desk
  | some session => exact carries_withLine present (.refl session) rfl rfl rfl

theorem carries_tearDown (heard : Option Update) (desk : Desk (Recorded ν)) :
    desk.Carries heard desk.tearDown := by
  rw [tearDown]
  split
  · exact .refl heard desk
  · exact carries_of_ended rfl

theorem carries_afterLoss (heard : Option Update) (desk : Desk (Recorded ν))
    (outcome : LossOutcome) : desk.Carries heard (desk.afterLoss outcome) := by
  cases outcome with
  | ignored => exact .refl heard desk
  | scheduled attempt delay => exact (Carries.refl heard desk).notify _
  | exhausted attempts => exact (carries_tearDown heard desk).notify _

theorem carries_onConnectionLost (heard : Option Update) (desk : Desk (Recorded ν)) (now : Nat) :
    desk.Carries heard (desk.onConnectionLost now) := by
  rw [onConnectionLost]
  cases present : desk.session with
  | none => exact .refl heard desk
  | some session =>
      have alone : session.Continues { session with peers := [] } :=
        ⟨rfl, rfl, List.nil_subset _⟩
      exact (carries_withLine present alone rfl rfl ((desk.line session).accepted_lose now)).trans
        (carries_afterLoss heard _ _)

theorem carries_requestState (heard : Option Update) (present : desk.session = some session)
    (now : Nat) : desk.Carries heard (desk.requestState session now) := by
  rw [requestState]
  split
  · rcases (desk.line session).send_cases .syncRequest with
      ⟨transport, sends⟩ | ⟨error, transport, sends⟩
    · rw [sends]
      exact .inr ⟨session, _, present, rfl, ⟨rfl, rfl, List.Subset.refl _⟩, .single (.asks _)⟩
    · rw [sends]
      have same : desk.Carries heard (desk.withLine session { desk.line session with
          network := { desk.network with transport } }) :=
        carries_withLine present (.refl session) rfl rfl rfl
      exact same.trans (carries_onConnectionLost heard _ now)
  · split
    · exact .refl heard desk
    · exact carries_withLine present (.refl session) rfl rfl rfl

theorem carries_onConnected (heard : Option Update) (desk : Desk (Recorded ν)) (now : Nat) :
    desk.Carries heard (desk.onConnected now) := by
  rw [onConnected]
  cases present : desk.session with
  | none => exact .refl heard desk
  | some session =>
      simp only
      split
      · let fresh : Session := { session with
          connection := (desk.line session).confirm.2.connection
          resync := session.resync || (desk.line session).confirm.1 }
        have same : session.Continues fresh := ⟨rfl, rfl, List.Subset.refl _⟩
        have confirms : desk.Carries heard (desk.withLine fresh (desk.line session).confirm.2) :=
          carries_withLine present same rfl rfl rfl
        split
        · exact (confirms.notify .reconnected).trans (carries_requestState heard rfl now)
        · exact confirms.trans (carries_requestState heard rfl now)
      · exact .refl heard desk

theorem carries_runReconnect (heard : Option Update) (desk : Desk (Recorded ν)) (now : Nat) :
    desk.Carries heard (desk.runReconnect now) := by
  rw [runReconnect]
  cases present : desk.session with
  | none => exact .refl heard desk
  | some session =>
      simp only
      have accepted := (desk.line session).accepted_redial now
      rcases redialed : (desk.line session).redial now with ⟨_ | outcome, line⟩
      · rw [redialed] at accepted
        exact carries_withLine present (.refl session) rfl rfl accepted
      · rw [redialed] at accepted
        exact (carries_withLine present (.refl session) rfl rfl accepted).trans
          (carries_afterLoss heard _ outcome)

/-! ### The document -/

theorem carries_closeForInvalidBuffer (heard : Option Update) (desk : Desk (Recorded ν)) :
    desk.Carries heard desk.closeForInvalidBuffer :=
  (carries_tearDown heard desk).notify _

theorem continues_displayOrDefer (session : Session) (buffer : Buffer) (now : Nat) :
    session.Continues (session.displayOrDefer buffer now).1 := by
  rw [Session.displayOrDefer]
  split
  · exact ⟨rfl, rfl, List.Subset.refl _⟩
  · exact ⟨rfl, rfl, List.Subset.refl _⟩

theorem carries_onRemoteUpdate (desk : Desk (Recorded ν)) (payload : Update) (now : Nat) :
    desk.Carries (some payload) (desk.onRemoteUpdate payload now) := by
  rw [onRemoteUpdate]
  cases present : desk.session with
  | none => exact .refl _ desk
  | some session =>
      let sent := ((session.observe desk.buffer now).1.flush desk.network now true).2
      have sends : Steps (some payload) (session.ledger desk.network) (sent.1.ledger sent.2) :=
        (session.steps_observe desk.network desk.buffer now _).trans
          ((session.observe desk.buffer now).1.steps_flush desk.network now _ true)
      have same : session.Continues sent.1 := ⟨rfl, rfl, List.Subset.refl _⟩
      simp only
      cases applied : ((desk.observe session now).1.flush (desk.observe session now).2.network
          now true).2.1.replica.apply payload with
      | error error => exact .inr ⟨session, _, present, rfl, same, sends⟩
      | ok updated =>
        have hears := sends.tail (.hears rfl applied)
        have settles : Steps (some payload) (session.ledger desk.network)
            ⟨updated, if sent.1.outbox.pending then sent.1.outbox
              else sent.1.outbox.recordVersion updated.token, sent.2.accepted⟩ := by
          split
          case isTrue => exact hears
          case isFalse idle => exact hears.tail (.trusts (eq_false_of_ne_true idle))
        let told : Session := { sent.1 with
          replica := updated
          outbox := if sent.1.outbox.pending then sent.1.outbox
            else sent.1.outbox.recordVersion updated.token
          contentReceived := sent.1.contentReceived || !updated.isEmpty }
        have goesOn : session.Continues told := ⟨rfl, rfl, List.Subset.refl _⟩
        exact .inr ⟨session, _, present, rfl, goesOn.trans (continues_displayOrDefer told _ now),
          Relation.ReflTransGen.trans settles (told.steps_displayOrDefer sent.2 _ now _)⟩

/-! ### Tasks and calls -/

theorem carries_runFlush (heard : Option Update) (desk : Desk (Recorded ν)) (now : Nat) :
    desk.Carries heard (desk.runFlush now) := by
  rw [runFlush]
  cases present : desk.session with
  | none => exact .refl heard desk
  | some session =>
      simp only
      split
      · exact carries_closeForInvalidBuffer heard desk
      · let seen := (session.observe desk.buffer now).1
        let sent := if seen.connection.state.isSynced = true then
          (seen.flush desk.network now false).2 else (seen, desk.network)
        have sends : session.Continues sent.1 ∧
            Steps heard (session.ledger desk.network) (sent.1.ledger sent.2) := by
          have observes := session.steps_observe desk.network desk.buffer now heard
          by_cases synced : seen.connection.state.isSynced = true
          · have flushes := observes.trans (seen.steps_flush desk.network now heard false)
            simp only [sent, synced, if_true]
            exact ⟨⟨rfl, rfl, List.Subset.refl _⟩, flushes⟩
          · simp only [sent, synced]
            exact ⟨⟨rfl, rfl, List.Subset.refl _⟩, observes⟩
        let looked := (session.observe desk.buffer now).2
        let shown := if (sent.1.deferred && sent.1.outbox.isIdle now) = true then
          sent.1.display looked now else (sent.1, looked)
        have shows : session.Continues shown.1 ∧
            Steps heard (session.ledger desk.network) (shown.1.ledger sent.2) := by
          by_cases shows : (sent.1.deferred && sent.1.outbox.isIdle now) = true
          · have displays := sends.2.trans (sent.1.steps_display sent.2 looked now heard)
            simp only [shown, shows, if_true]
            exact ⟨⟨sends.1.role, sends.1.mode, sends.1.peers⟩, displays⟩
          · simp only [shown, shows]
            exact sends
        exact .inr ⟨session, shown.1, present, rfl, shows⟩

theorem carries_bufferChanged (heard : Option Update) (desk : Desk (Recorded ν)) (now : Nat) :
    desk.Carries heard (desk.bufferChanged now) := by
  rw [bufferChanged]
  cases present : desk.session with
  | none => exact .refl heard desk
  | some session =>
      simp only
      split
      · exact carries_closeForInvalidBuffer heard desk
      · exact .inr ⟨session, _, present, rfl, ⟨rfl, rfl, List.Subset.refl _⟩,
          session.steps_observe desk.network desk.buffer now heard⟩

theorem carries_flushNow (heard : Option Update) (desk : Desk (Recorded ν)) (now : Nat) :
    desk.Carries heard (desk.flushNow now).2 := by
  rw [flushNow]
  cases present : desk.session with
  | none => exact .refl heard desk
  | some session =>
      have observes := session.steps_observe desk.network desk.buffer now heard
      simp only
      split
      · exact .inr ⟨session, _, present, rfl, ⟨rfl, rfl, List.Subset.refl _⟩,
          observes.trans (Session.steps_flush _ _ now heard true)⟩
      · exact .inr ⟨session, _, present, rfl, ⟨rfl, rfl, List.Subset.refl _⟩, observes⟩

/-! ### A peer that connects -/

/-- A peer that connects to anybody but its host leaves the ledger as it is. -/
theorem exists_onPeerConnected_of_other (present : desk.session = some session)
    (other : ¬(session.isHost = true ∧ session.mode = .peerToPeer)) (peer : String) (now : Nat) :
    ∃ later, (desk.onPeerConnected peer now).session = some later ∧
      later.role = session.role ∧ later.mode = session.mode ∧
        later.ledger (desk.onPeerConnected peer now).network = session.ledger desk.network := by
  rw [onPeerConnected, present]
  simp only
  split
  case isTrue host =>
    rw [Bool.and_eq_true, decide_eq_true_eq] at host
    exact absurd host other
  case isFalse => exact ⟨_, rfl, rfl, rfl, rfl⟩

/-- A peer that connects to its host is sent everything, and if that was accepted, everybody is
taken to have it. -/
theorem exists_onPeerConnected_of_host (present : desk.session = some session)
    (host : session.isHost = true ∧ session.mode = .peerToPeer) (peer : String) (now : Nat) :
    ∃ later, (desk.onPeerConnected peer now).session = some later ∧
      later.role = session.role ∧ later.mode = session.mode ∧
        later.peers = Session.insertPeer peer session.peers ∧
          (later.ledger (desk.onPeerConnected peer now).network =
              ((desk.observe session now).1.ledger desk.network).welcomed ∨
            later.ledger (desk.onPeerConnected peer now).network =
              (desk.observe session now).1.ledger desk.network) := by
  let joined : Session := { session with peers := Session.insertPeer peer session.peers }
  let there : Desk (Recorded ν) := (desk.withSession joined).notify (.peerJoined peer)
  have welcomes : desk.onPeerConnected peer now = there.welcomePeer joined now := by
    rw [onPeerConnected, present]
    apply if_pos
    rw [Bool.and_eq_true, decide_eq_true_eq]
    exact host
  rw [welcomes, welcomePeer]
  rcases ((there.observe joined now).2.line (there.observe joined now).1).send_cases
      (.fullState (there.observe joined now).1.replica.fullState) with
    ⟨transport, sends⟩ | ⟨error, transport, sends⟩
  · simp only [sends]
    split
    · exact ⟨_, rfl, rfl, rfl, rfl, .inl rfl⟩
    · exact ⟨_, rfl, rfl, rfl, rfl, .inl rfl⟩
  · simp only [sends]
    split
    · exact ⟨_, rfl, rfl, rfl, rfl, .inr rfl⟩
    · exact ⟨_, rfl, rfl, rfl, rfl, .inr rfl⟩

theorem exists_onPeerConnected (present : desk.session = some session) (peer : String)
    (now : Nat) :
    ∃ later middle, (desk.onPeerConnected peer now).session = some later ∧
      Steps none (session.ledger desk.network) middle ∧
        (later.ledger (desk.onPeerConnected peer now).network = middle ∨
          later.ledger (desk.onPeerConnected peer now).network = middle.welcomed) := by
  by_cases host : session.isHost = true ∧ session.mode = .peerToPeer
  · rcases exists_onPeerConnected_of_host present host peer now with ⟨later, next, _, _, _, ledger⟩
    exact ⟨later, _, next, session.steps_observe desk.network _ now none, ledger.symm⟩
  · rcases exists_onPeerConnected_of_other present host peer now with ⟨later, next, _, _, ledger⟩
    exact ⟨later, _, next, .refl, .inl ledger⟩

/-! ### Rounds and calls -/

/-- What is in the document of a host at first, it has made. -/
theorem makes_seed (replica : ReplicaId) (buffer : Buffer) (outbox : Outbox) :
    ({ id := replica } : Replica).Makes (seed replica buffer outbox).1 := by
  rw [seed]
  split
  · exact .refl (Replica.grown_new replica)
  · exact (Replica.grown_new replica).makes_setText _

theorem lastSent_seed (replica : ReplicaId) (buffer : Buffer) (outbox : Outbox) :
    (seed replica buffer outbox).2.lastSent = outbox.lastSent := by
  rw [seed]
  split
  · rfl
  · rfl

/-- What a desk hears as it deals with a matter comes from it, and nobody joins by it unless a peer
connects. -/
theorem carries_deal (desk : Desk (Recorded ν)) {matter : Matter}
    (noPeer : ∀ peer, matter ≠ .event (.peerConnected peer)) (now : Nat) :
    desk.Carries matter.payload? (desk.deal matter now) := by
  cases matter with
  | event event =>
      cases event with
      | connected => exact carries_onConnected _ desk now
      | disconnected => exact carries_onConnectionLost _ desk now
      | syncResponse payload => exact carries_onInitialState desk payload now
      | update payload => exact carries_onRemoteUpdate desk payload now
      | fullState payload =>
          rw [deal, handle]
          split
          · exact carries_onRemoteUpdate desk payload now
          · exact carries_onInitialState desk payload now
      | error message => exact carries_onConnectionLost _ desk now
      | peerConnected peer => exact absurd rfl (noPeer peer)
      | peerDisconnected peer => exact carries_onPeerDisconnected _ desk peer
      | ready endpointId relayUrl => exact carries_onReady _ desk endpointId relayUrl
  | task task =>
      cases task with
      | flush => exact carries_runFlush _ desk now
      | reconcile => exact carries_runReconcile _ desk now
      | connectTimeout => exact carries_onConnectionLost _ desk now
      | reconnect => exact carries_runReconnect _ desk now
      | emptySyncFallback => exact carries_runEmptySyncFallback _ desk now

theorem accepted_takeMatter (desk : Desk (Recorded ν)) (now : Nat) :
    (desk.takeMatter now).2.network.accepted = desk.network.accepted := by
  rcases desk.exists_takeMatter_snd now with ⟨agenda, taken⟩
  rw [taken, nextEvent]
  split
  · rfl
  · rfl

theorem ledger_takeMatter (desk : Desk (Recorded ν)) (session : Session) (now : Nat) :
    session.ledger (desk.takeMatter now).2.network = session.ledger desk.network := by
  rw [Session.ledger, accepted_takeMatter]
  rfl

theorem carries_takeMatter (heard : Option Update) (desk : Desk (Recorded ν)) (now : Nat) :
    desk.Carries heard (desk.takeMatter now).2 := by
  rcases desk.exists_takeMatter_snd now with ⟨agenda, taken⟩
  rw [taken]
  exact carries_nextEvent heard desk

/-- In a round a ledger takes steps, and then somebody may be sent everything. -/
theorem exists_of_pollOnce {now : Nat} (next : (desk.pollOnce now).2.session = some later) :
    ∃ session heard middle, desk.session = some session ∧
      Steps heard (session.ledger desk.network) middle ∧
        (later.ledger (desk.pollOnce now).2.network = middle ∨
          later.ledger (desk.pollOnce now).2.network = middle.welcomed) := by
  have of_carries : ∀ {heard}, desk.Carries heard (desk.pollOnce now).2 →
      ∃ session heard middle, desk.session = some session ∧
        Steps heard (session.ledger desk.network) middle ∧
          (later.ledger (desk.pollOnce now).2.network = middle ∨
            later.ledger (desk.pollOnce now).2.network = middle.welcomed) := by
    rintro heard (ended | ⟨session, other, present, same, _, steps⟩)
    · cases ended.symm.trans next
    · cases same.symm.trans next
      exact ⟨session, heard, _, present, steps, .inl rfl⟩
  rcases found : (desk.takeMatter now).1 with _ | matter
  · apply of_carries
    rw [pollOnce_of_none found]
    exact carries_takeMatter none desk now
  · by_cases noPeer : ∀ peer, matter ≠ .event (.peerConnected peer)
    · apply of_carries
      rw [pollOnce_of_matter found]
      exact (carries_takeMatter _ desk now).trans (carries_deal _ noPeer now)
    · simp only [ne_eq, not_forall, not_not] at noPeer
      rcases noPeer with ⟨peer, rfl⟩
      have polled := congrArg Prod.snd (pollOnce_of_matter found)
      rcases Option.eq_none_or_eq_some desk.session with ended | ⟨session, present⟩
      · have nobody := (desk.session_takeMatter_eq now).trans ended
        rw [polled, deal, handle, onPeerConnected, nobody] at next
        cases nobody.symm.trans next
      · rcases exists_onPeerConnected (session_takeMatter present now) peer now with
          ⟨other, middle, same, steps, ledger⟩
        rw [polled] at next ⊢
        cases Option.some.inj (same.symm.trans next)
        rw [ledger_takeMatter] at steps
        exact ⟨session, none, middle, present, steps, ledger⟩

/-- A call that does not poll hears of nothing. -/
theorem carries_perform (desk : Desk (Recorded ν)) {call : Call} (same : call.number? = none)
    (once : call ≠ .poll) (now : Nat) : desk.Carries none (call.perform desk now) := by
  cases call with
  | takeNotices => exact .refl none desk
  | host target draws => cases same
  | join code replica => cases same
  | bufferChanged => exact carries_bufferChanged none desk now
  | flushNow => exact carries_flushNow none desk now
  | poll => exact absurd rfl once
  | leave =>
      rw [Call.perform, leave]
      split
      · exact (carries_tearDown none desk).notify _
      · exact .refl none desk
  | vanish =>
      rw [Call.perform, vanish]
      split
      · exact .refl none desk
      · exact carries_of_ended rfl

/-! ### What is kept up -/

variable {holds : Ledger → Prop}

theorem HasLedger.pollOnce (kept : Ledger.Kept holds) (has : desk.HasLedger holds) (now : Nat) :
    (desk.pollOnce now).2.HasLedger holds := by
  intro later next
  rcases exists_of_pollOnce next with ⟨session, heard, middle, present, steps, same | welcomed⟩
  · rw [same]
    exact kept.steps steps (has session present)
  · rw [welcomed]
    exact kept.welcome _ (kept.steps steps (has session present))

/-- Calls within a session keep up what is kept step by step. -/
theorem HasLedger.perform (kept : Ledger.Kept holds) (has : desk.HasLedger holds) {call : Call}
    (same : call.number? = none) (now : Nat) : (call.perform desk now).HasLedger holds := by
  by_cases polls : call = .poll
  · rw [polls]
    exact pollUpTo_induction (fun _ still => still.pollOnce kept now) _ has
  · exact has.carries kept (carries_perform desk same polls now)

end Desk

end Cowrite
