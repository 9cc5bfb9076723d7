import Cowrite.Proofs.Session.Call
import Cowrite.Proofs.Session.FirstState
import Cowrite.Proofs.Session.Rounds
import Cowrite.Proofs.Session.Tending
import Cowrite.Transport.Scripted

/-!
# Sessions that are never stuck

Every event and every task leaves the connection of a session tended (`Desk.Tended.handle`,
`Desk.Tended.run`), or the session is over. So it is in every session that can come about, over any
transport (`Desk.Lives.tended`): whoever has no connection is about to try again, and whoever waits
gives up in time (`Desk.Lives.never_stuck`).
-/

namespace Cowrite

namespace Desk

variable {ν : Type} {desk after : Desk ν} {session later : Session}

/-- A desk whose session, if there is one, has a tended connection. -/
structure Tended (desk : Desk ν) : Prop where
  idle : desk.session = none → desk.agenda = {}
  line : ∀ session, desk.session = some session → (desk.line session).Tended
  limit : ∀ session, desk.session = some session →
    session.connection.backoff.maxAttempts = desk.settings.maxReconnects

theorem tended_of_ended (ended : after.session = none) (empty : after.agenda = {}) :
    after.Tended := by
  refine ⟨fun _ => empty, ?_, ?_⟩
  · intro session present
    cases ended.symm.trans present
  · intro session present
    cases ended.symm.trans present

theorem tended_of_present (present : after.session = some later) (line : (after.line later).Tended)
    (limit : later.connection.backoff.maxAttempts = after.settings.maxReconnects) :
    after.Tended := by
  refine ⟨?_, ?_, ?_⟩
  · intro ended
    cases ended.symm.trans present
  · intro other same
    cases present.symm.trans same
    exact line
  · intro other same
    cases present.symm.trans same
    exact limit

/-- Whatever leaves the connection, the agenda and the settings alone leaves them tended. -/
theorem Tended.of_same (tended : desk.Tended) (present : desk.session = some session)
    (next : after.session = some later) (connection : later.connection = session.connection)
    (agenda : after.agenda = desk.agenda) (settings : after.settings = desk.settings) :
    after.Tended := by
  refine tended_of_present next ?_ ?_
  · show after.agenda.Tends later.connection
    rw [connection, agenda]
    exact tended.line session present
  · rw [connection, settings]
    exact tended.limit session present

theorem Tended.withState (tended : desk.Tended) (present : desk.session = some session)
    (client : session.connection.client ≠ none) (state : ConnectionState)
    (settled : state.isUnconfirmed = false) (standing : state ≠ .failed)
    (next : after.session = some later)
    (connection : later.connection = { session.connection with state })
    (agenda : after.agenda = desk.agenda) (settings : after.settings = desk.settings) :
    after.Tended := by
  refine tended_of_present next ?_ ?_
  · show after.agenda.Tends later.connection
    rw [connection, agenda]
    exact (tended.line session present).withState client settled standing
  · rw [connection, settings]
    exact tended.limit session present

theorem Tended.notify (tended : desk.Tended) (notice : Notice) : (desk.notify notice).Tended :=
  ⟨tended.idle, tended.line, tended.limit⟩

/-- A desk whose session is to lose its connection, or to try to make a new one. -/
structure Loses (desk : Desk ν) (session : Session) : Prop where
  steadies : desk.agenda.Steadies session.connection
  unplanned : desk.agenda.has .reconnect = false
  limit : session.connection.backoff.maxAttempts = desk.settings.maxReconnects

theorem Tended.loses (tended : desk.Tended) (present : desk.session = some session)
    (client : session.connection.client ≠ none) : desk.Loses session :=
  ⟨(tended.line session present).toSteadies, (tended.line session present).unplanned client,
    tended.limit session present⟩

theorem Tended.loses_of_pop (tended : desk.Tended) (present : desk.session = some session)
    {now : Nat} {task : Task} {agenda : Agenda} (popped : desk.agenda.pop now = some (task, agenda))
    (about : task = .reconnect ∨ task = .connectTimeout) :
    ({ desk with agenda } : Desk ν).Loses session :=
  ⟨(tended.line session present).toSteadies.pop popped,
    (tended.line session present).unplanned_of_pop popped about, tended.limit session present⟩

theorem tended_withLine {line : Line ν} (tended : line.Tended)
    (limit : line.connection.backoff.maxAttempts = desk.settings.maxReconnects) :
    (desk.withLine session line).Tended :=
  tended_of_present rfl tended limit

/-! ### Without a transport -/

theorem Tended.onReady (tended : desk.Tended) (present : desk.session = some session)
    (client : session.connection.client ≠ none) (endpointId relayUrl : String) :
    (desk.onReady endpointId relayUrl).Tended := by
  rw [Desk.onReady, present]
  refine Tended.notify ?_ _
  simp only
  split
  · have confirmed : (desk.withLine { session with
        invitation := some (Invitation.peer endpointId relayUrl) }
        (desk.line session).confirm.2).Tended :=
      tended_withLine ((tended.line session present).confirm client) (tended.limit session present)
    split
    · exact confirmed.notify .reconnected
    · exact confirmed
  · exact tended.of_same present rfl rfl rfl rfl

theorem Tended.onInitialState (tended : desk.Tended) (present : desk.session = some session)
    (client : session.connection.client ≠ none) (payload : Update) (now : Nat) :
    (desk.onInitialState payload now).Tended := by
  have contact : (informed (desk.observe session now).1 payload).connection =
      { session.connection with state := .synced } := by
    rw [informed, settleOutbox_eq, receiveState_eq]
    rfl
  rw [onInitialState_of_present present]
  refine Tended.notify ?_ _
  split
  · have synced : ((desk.observe session now).2.withSession
        (informed (desk.observe session now).1 payload)).Tended :=
      tended.withState present client .synced rfl (by decide) rfl contact rfl rfl
    refine tended_of_present rfl ?_ (synced.limit _ rfl)
    exact (synced.line _ rfl).put (by simp) (by simp)
  · refine tended.withState present client .synced rfl (by decide) rfl ?_ rfl rfl
    rw [Session.connection_displayOrDefer]
    exact contact

theorem Tended.onPeerDisconnected (tended : desk.Tended) (present : desk.session = some session)
    (client : session.connection.client ≠ none) (peer : String) :
    (desk.onPeerDisconnected peer).Tended := by
  rw [Desk.onPeerDisconnected, present]
  refine Tended.notify ?_ _
  simp only
  split
  · exact tended.withState present client .disconnected rfl (by decide) rfl rfl rfl rfl
  · exact tended.of_same present rfl rfl rfl rfl

theorem Tended.runReconcile (tended : desk.Tended) (now : Nat) :
    (desk.runReconcile now).Tended := by
  rw [Desk.runReconcile]
  cases present : desk.session with
  | none => exact tended
  | some session =>
      simp only
      split
      · exact tended
      · split
        · exact tended.of_same present rfl rfl rfl rfl
        · exact tended.of_same present rfl rfl rfl rfl

theorem Tended.runEmptySyncFallback (tended : desk.Tended) (now : Nat) :
    (desk.runEmptySyncFallback now).Tended := by
  rw [Desk.runEmptySyncFallback]
  cases present : desk.session with
  | none => exact tended
  | some session =>
      simp only
      split
      · exact tended
      · split
        · exact tended.of_same present rfl rfl rfl rfl
        · refine Tended.notify ?_ _
          exact tended.of_same present rfl rfl rfl rfl

/-! ### The connection -/

variable [Transport ν]

theorem Tended.tearDown (tended : desk.Tended) : desk.tearDown.Tended := by
  rw [Desk.tearDown]
  split
  · exact tended
  · exact tended_of_ended rfl rfl

theorem Tended.closeForInvalidBuffer (tended : desk.Tended) : desk.closeForInvalidBuffer.Tended :=
  tended.tearDown.notify _

theorem Loses.onConnectionLost (loses : desk.Loses session) (present : desk.session = some session)
    (now : Nat) : (desk.onConnectionLost now).Tended := by
  rw [Desk.onConnectionLost, present]
  have steadies : (desk.line session).agenda.Steadies (desk.line session).connection :=
    loses.steadies
  rcases Line.tended_lose steadies loses.unplanned now with
    ⟨attempt, delay, line, lost, tended, backoff⟩ | ⟨attempts, line, lost⟩
  · simp only [lost]
    refine Tended.notify (tended_withLine tended ?_) _
    rw [backoff]
    exact loses.limit
  · simp only [lost]
    exact (tended_of_ended rfl rfl).notify _

theorem Loses.runReconnect (loses : desk.Loses session) (present : desk.session = some session)
    (now : Nat) : (desk.runReconnect now).Tended := by
  rw [Desk.runReconnect, present]
  have steadies : (desk.line session).agenda.Steadies (desk.line session).connection :=
    loses.steadies
  rcases Line.tended_redial steadies loses.unplanned now with
    ⟨line, redials, tended, backoff⟩ | ⟨attempt, delay, line, redials, tended, backoff⟩ |
      ⟨attempts, line, redials⟩
  · simp only [redials]
    apply tended_withLine tended
    rw [backoff]
    exact loses.limit
  · simp only [redials]
    refine Tended.notify (tended_withLine tended ?_) _
    rw [backoff]
    exact loses.limit
  · simp only [redials]
    exact (tended_of_ended rfl rfl).notify _

theorem Tended.requestState (tended : desk.Tended) (present : desk.session = some session)
    (client : session.connection.client ≠ none) (now : Nat) :
    (desk.requestState session now).Tended := by
  rw [Desk.requestState]
  split
  · rcases (desk.line session).exists_send .syncRequest with ⟨result, network, sends⟩
    rw [sends]
    cases result with
    | ok sent => exact tended.withState present client .syncing rfl (by decide) rfl rfl rfl rfl
    | error error =>
        have still : (desk.withLine session { desk.line session with network }).Tended :=
          tended.of_same present rfl rfl rfl rfl
        exact (still.loses rfl client).onConnectionLost rfl now
  · split
    · exact tended
    · exact tended.withState present client .syncing rfl (by decide) rfl rfl rfl rfl

theorem Tended.onConnected (tended : desk.Tended) (present : desk.session = some session)
    (client : session.connection.client ≠ none) (now : Nat) : (desk.onConnected now).Tended := by
  rw [Desk.onConnected, present]
  simp only
  split
  · have confirmed : (desk.withLine { session with
        connection := (desk.line session).confirm.2.connection
        resync := session.resync || (desk.line session).confirm.1 }
        (desk.line session).confirm.2).Tended :=
      tended_withLine ((tended.line session present).confirm client) (tended.limit session present)
    split
    · exact (confirmed.notify .reconnected).requestState rfl client now
    · exact confirmed.requestState rfl client now
  · exact tended

/-! ### The document and the peers -/

theorem Tended.onRemoteUpdate (tended : desk.Tended) (payload : Update) (now : Nat) :
    (desk.onRemoteUpdate payload now).Tended := by
  rw [Desk.onRemoteUpdate]
  cases present : desk.session with
  | none => exact tended
  | some session =>
      simp only
      split
      · exact tended.of_same present rfl rfl rfl rfl
      · refine tended.of_same present rfl ?_ rfl rfl
        rw [Session.connection_displayOrDefer]
        rfl

/-- What goes wrong when a peer is welcomed does not matter to the connection. -/
theorem Tended.welcomePeer (tended : desk.Tended) (present : desk.session = some session)
    (client : session.connection.client ≠ none) (now : Nat) :
    (desk.welcomePeer session now).Tended := by
  rw [Desk.welcomePeer]
  rcases Line.exists_send ((desk.observe session now).2.line (desk.observe session now).1)
    (.fullState (desk.observe session now).1.replica.fullState) with ⟨result, network, sends⟩
  simp only [sends]
  split
  · split
    · exact tended.of_same present rfl rfl rfl rfl
    · refine Tended.notify ?_ _
      exact tended.withState present client .synced rfl (by decide) rfl rfl rfl rfl
  · split
    · exact tended.of_same present rfl rfl rfl rfl
    · refine Tended.notify ?_ _
      exact tended.withState present client .synced rfl (by decide) rfl rfl rfl rfl

theorem Tended.onPeerConnected (tended : desk.Tended) (present : desk.session = some session)
    (client : session.connection.client ≠ none) (peer : String) (now : Nat) :
    (desk.onPeerConnected peer now).Tended := by
  rw [Desk.onPeerConnected, present]
  simp only
  split
  · have joined : ((desk.withSession { session with
        peers := Session.insertPeer peer session.peers }).notify (.peerJoined peer)).Tended :=
      tended.of_same present rfl rfl rfl rfl
    exact joined.welcomePeer rfl client now
  · exact tended.of_same present rfl rfl rfl rfl

/-- An event about the present client leaves the connection tended. -/
theorem Tended.handle (tended : desk.Tended) (present : desk.session = some session)
    (client : session.connection.client ≠ none) (event : TransportEvent Update) (now : Nat) :
    (desk.handle event now).Tended := by
  cases event with
  | connected => exact tended.onConnected present client now
  | disconnected => exact (tended.loses present client).onConnectionLost present now
  | syncResponse payload => exact tended.onInitialState present client payload now
  | update payload => exact tended.onRemoteUpdate payload now
  | fullState payload =>
      rw [Desk.handle]
      split
      · exact tended.onRemoteUpdate payload now
      · exact tended.onInitialState present client payload now
  | error message => exact (tended.loses present client).onConnectionLost present now
  | peerConnected peer => exact tended.onPeerConnected present client peer now
  | peerDisconnected peer => exact tended.onPeerDisconnected present client peer
  | ready endpointId relayUrl => exact tended.onReady present client endpointId relayUrl

/-! ### Tasks -/

theorem Tended.runFlush (tended : desk.Tended) (now : Nat) : (desk.runFlush now).Tended := by
  rw [Desk.runFlush]
  cases present : desk.session with
  | none => exact tended
  | some session =>
      simp only
      split
      · exact tended.closeForInvalidBuffer
      · refine tended.of_same present rfl ?_ rfl rfl
        split
        · split
          · rfl
          · rfl
        · split
          · rfl
          · rfl

/-- A task that is due leaves the connection tended when it has been done. -/
theorem Tended.run (tended : desk.Tended) {now : Nat} {task : Task} {agenda : Agenda}
    (popped : desk.agenda.pop now = some (task, agenda)) :
    (({ desk with agenda } : Desk ν).run task now).Tended := by
  rcases Option.eq_none_or_eq_some desk.session with ended | ⟨session, present⟩
  · rw [tended.idle ended] at popped
    cases popped
  · have kept : task ≠ .reconnect → task ≠ .connectTimeout →
        ({ desk with agenda } : Desk ν).Tended := by
      intro noRedial noTimeout
      exact tended_of_present present
        ((tended.line session present).pop popped noRedial noTimeout) (tended.limit session present)
    cases task with
    | flush => exact (kept (by decide) (by decide)).runFlush now
    | reconcile => exact (kept (by decide) (by decide)).runReconcile now
    | connectTimeout =>
        exact (tended.loses_of_pop present popped (.inr rfl)).onConnectionLost present now
    | reconnect => exact (tended.loses_of_pop present popped (.inl rfl)).runReconnect present now
    | emptySyncFallback => exact (kept (by decide) (by decide)).runEmptySyncFallback now

/-! ### Calls -/

/-- A round deals with an event only if it is about the present client. -/
theorem Tended.pollOnce (tended : desk.Tended) (now : Nat) : (desk.pollOnce now).2.Tended := by
  rw [Desk.pollOnce]
  rcases Option.eq_none_or_eq_some desk.session with ended | ⟨session, present⟩
  · have looked : desk.nextEvent = (none, desk) := by rw [Desk.nextEvent, ended]
    rw [looked]
    simp only
    rcases popped : desk.agenda.pop now with _ | ⟨_, _⟩
    · exact tended
    · exact tended.run popped
  · have looked : desk.nextEvent.2.Tended := by
      rw [Desk.nextEvent, present]
      exact tended.of_same present rfl rfl rfl rfl
    rcases next : desk.nextEvent with ⟨_ | event, after⟩
    · simp only
      rw [next] at looked
      rcases popped : after.agenda.pop now with _ | ⟨_, _⟩
      · exact looked
      · exact looked.run popped
    · rw [next] at looked
      rw [Desk.nextEvent, present] at next
      simp only [Prod.mk.injEq, Option.map_eq_some_iff] at next
      rcases next with ⟨⟨envelope, first, _⟩, rfl⟩
      have client : session.connection.client = some envelope.client :=
        Line.client_of_nextEvent first
      exact looked.handle rfl (client ▸ Option.some_ne_none _) event now

theorem Tended.bufferChanged (tended : desk.Tended) (now : Nat) :
    (desk.bufferChanged now).Tended := by
  rw [Desk.bufferChanged]
  cases present : desk.session with
  | none => exact tended
  | some session =>
      simp only
      split
      · exact tended.closeForInvalidBuffer
      · exact tended.of_same present rfl rfl rfl rfl

theorem Tended.flushNow (tended : desk.Tended) (now : Nat) : (desk.flushNow now).2.Tended := by
  rw [Desk.flushNow]
  cases present : desk.session with
  | none => exact tended
  | some session =>
      simp only
      split
      · exact tended.of_same present rfl rfl rfl rfl
      · exact tended.of_same present rfl rfl rfl rfl

/-- A session that begins is tended, as its first attempt to connect has a timeout. -/
theorem tended_opened (empty : desk.agenda = {}) (role : Role) (target : ConnectTarget)
    (key : Option SessionKey) (invitation : Option Invitation) (document : Replica × Outbox)
    (now : Nat) : (desk.opened role target key invitation document now).Tended := by
  let session := (desk.prepare role target key invitation document.1 document.2 now).1
  let prepared := (desk.prepare role target key invitation document.1 document.2 now).2
  have agenda : (prepared.line session).agenda = {} := empty
  have steadies : (prepared.line session).agenda.Steadies (prepared.line session).connection := by
    rw [agenda]
    exact ⟨rfl, by simp [line, session, prepare], Nat.zero_le _, by simp [line, session, prepare],
      Agenda.single_empty _, Agenda.single_empty _⟩
  have unplanned : (prepared.line session).agenda.has .reconnect = false := by
    rw [agenda]
    rfl
  show (prepared.start session now).2.Tended
  rw [start]
  rcases Line.tended_connect steadies unplanned now with
    ⟨line, connects, tended, backoff⟩ | ⟨error, network, refused⟩
  · rw [connects]
    simp only
    cases plans : periodic prepared.settings prepared.clock line.agenda now with
    | error _ => exact tended_of_ended rfl rfl
    | ok agenda =>
        rcases exists_of_periodic plans with ⟨interval, _, rfl⟩
        apply tended_withLine
        · have flushing : (line.agenda.every .flush prepared.settings.flushInterval now).Tends
              line.connection := Agenda.Tends.put tended (by simp) (by simp)
          exact flushing.put (by simp) (by simp)
        · exact congrArg Backoff.maxAttempts backoff
  · rw [refused]
    exact tended_of_ended rfl rfl

theorem Tended.perform (tended : desk.Tended) (call : Call) (now : Nat) :
    (call.perform desk now).Tended := by
  have opens : ∀ {role target key invitation document notices}, desk.session = none →
      ({ desk.opened role target key invitation document now with notices } : Desk ν).Tended := by
    intro role target key invitation document notices ended
    have opened := tended_opened (tended.idle ended) role target key invitation document now
    exact ⟨opened.idle, opened.line, opened.limit⟩
  cases call with
  | takeNotices => exact ⟨tended.idle, tended.line, tended.limit⟩
  | host target draws =>
      rcases desk.host_cases target draws now with same | ⟨ended, _, _, _, _, opened⟩
      · rw [Call.perform, same]
        exact tended
      · rw [Call.perform, opened]
        exact opens ended
  | join code replica =>
      rcases desk.join_cases code replica now with same | ⟨ended, _, _, _, _, opened⟩
      · rw [Call.perform, same]
        exact tended
      · rw [Call.perform, opened]
        exact opens ended
  | bufferChanged => exact tended.bufferChanged now
  | flushNow => exact tended.flushNow now
  | poll => exact pollUpTo_induction (fun _ still => still.pollOnce now) _ tended
  | leave =>
      rw [Call.perform, leave]
      split
      · exact tended.tearDown.notify _
      · exact tended
  | vanish =>
      rw [Call.perform, vanish]
      split
      · exact tended
      · exact tended_of_ended rfl rfl

/-! ## Every desk that comes about -/

theorem Lives.tended (lives : desk.Lives) : desk.Tended := by
  induction lives with
  | fresh ended empty => exact tended_of_ended ended empty
  | carries _ buffer network ih => exact ⟨ih.idle, ih.line, ih.limit⟩
  | calls _ call now ih => exact ih.perform call now
  | turns _ now ih => exact ih.pollOnce now

/-- A session always has a client or an attempt to reconnect ahead of it, and never both; a
connection that is not confirmed has a timeout ahead of it or such an attempt; attempts are counted
and do not go past their limit; and a session that has failed is over. The count has 32 bits: it is
known to start from 1 if one attempt more than the limit can be counted, which leaves out only the
greatest limit of all, where the count can begin anew from 0. -/
theorem Lives.never_stuck (lives : desk.Lives) (present : desk.session = some session) :
    (desk.agenda.has .reconnect = true ↔ session.connection.client = none) ∧
    (session.connection.client = none →
      session.connection.state.isReconnecting = true ∧
        desk.agenda.has .connectTimeout = false) ∧
    (session.connection.state = .connecting →
      session.connection.client ≠ none ∧ desk.agenda.has .connectTimeout = true) ∧
    (∀ attempt, session.connection.state = .reconnecting attempt →
      desk.agenda.has .reconnect = !desk.agenda.has .connectTimeout ∧
        attempt = session.connection.attempts ∧
          (desk.settings.maxReconnects + 1 < 1 <<< 32 → 1 ≤ attempt) ∧
            attempt ≤ desk.settings.maxReconnects) ∧
    session.connection.state ≠ .failed := by
  have tended := lives.tended
  have tends := tended.line session present
  have limit := tended.limit session present
  refine ⟨tends.planned, tends.alone, ?_, ?_, tends.standing⟩
  · intro connecting
    have client : session.connection.client ≠ none := by
      intro none
      have waits := (tends.alone none).1
      rw [show (desk.line session).connection.state = _ from connecting] at waits
      cases waits
    refine ⟨client, tends.timed client ?_⟩
    rw [show (desk.line session).connection.state = _ from connecting]
    rfl
  · intro attempt reconnecting
    rcases tends.counted attempt reconnecting with ⟨counted, first⟩
    have last : attempt ≤ session.connection.backoff.maxAttempts := counted ▸ tends.bounded
    rw [limit] at last
    refine ⟨?_, counted, fun countable => first (limit ▸ countable), last⟩
    by_cases client : session.connection.client = none
    · have planned := tends.planned.2 client
      have untimed := (tends.alone client).2
      exact planned.trans (congrArg (!·) untimed).symm
    · have unplanned := tends.unplanned client
      have timed := tends.timed client (by
        rw [show (desk.line session).connection.state = _ from reconnecting]
        rfl)
      exact unplanned.trans (congrArg (!·) timed).symm

/-- Nothing answers a host, and its first attempt to connect has taken too long. -/
def unanswered : Desk Scripted :=
  let quiet : Desk Scripted := { buffer := Buffer.ofText [], network := { serves := .peerToPeer } }
  Call.poll.perform
    ((Call.host .peerToPeer ⟨1, 0, ⟨List.replicate 32 0, SessionKey.length_zeros⟩⟩).perform quiet 0)
    10000

theorem unanswered_never_stuck :
    ∃ session, unanswered.session = some session ∧
      session.connection.state = .reconnecting 1 ∧ session.connection.client = none ∧
        unanswered.agenda.has .reconnect = true ∧ unanswered.agenda.has .connectTimeout = false ∧
          session.connection.attempts = 1 := by
  have lives : unanswered.Lives := ((Lives.fresh rfl rfl).calls _ 0).calls .poll 10000
  have state : unanswered.session.map (·.connection.state) = some (.reconnecting 1) := by
    decide +kernel
  rcases Option.map_eq_some_iff.1 state with ⟨session, present, reconnecting⟩
  rcases lives.never_stuck present with ⟨planned, alone, _, counts, _⟩
  have redials : unanswered.agenda.has .reconnect = true := by decide +kernel
  have client := planned.1 redials
  exact ⟨session, present, reconnecting, client, redials, (alone client).2,
    (counts 1 reconnecting).2.1.symm⟩

end Desk

end Cowrite
